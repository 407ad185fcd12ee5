import FH8852.Lib.AnnexB

/-!
# The NALs of a clip

`load` of `replay.c` and `load_stream` of `fake_mpi.c`, which find the NALs and the
access units of the same file.  A pointer is its offset in the file, and an access
outside the file or the arrays is `none`.  `long` and the pointers have 32 bits on
the target of `fake_mpi.c`, so no length of a NAL is cut there.
-/

namespace FH8852
namespace Oracle

open CLib AnnexB

structure Nal where
  p : Nat
  len : Nat

def Nal.bytes (b : Bytes) (n : Nal) : Bytes := (b.drop n.p).take n.len

/-- `g_nals[g_nal_count - 1].len`, for a NAL that ends at `i`. -/
def closeLast (nals : List Nal) (i : Nat) : List Nal :=
  match nals.getLast? with
  | none => nals
  | some last => nals.dropLast ++ [{ last with len := i - last.p }]

section Scanner

variable (b : Bytes) (code skip : Nat → Nat)

/-- The first loop of both functions.  `code` is the length of the start code at an
offset, or 0, and `skip` what a NAL leaves out of it. -/
def scanLoop (i : Nat) (nals : List Nal) : Option (List Nal) :=
  if i + 3 < b.length then
    if code i = 0 then scanLoop (i + 1) nals
    else if nals.length < 8192 then
      scanLoop (i + code i) (closeLast nals i ++ [⟨i + skip (code i), 0⟩])
    else none
  else some nals
termination_by b.length - i
decreasing_by all_goals omega

/-- The second loop, over the types of the NALs from the `k`-th on. -/
def auLoop (type : Nal → Option UInt8) : List Nal → (k start : Nat) → List AccessUnit →
    Option (List AccessUnit)
  | [], _, _, aus => some aus
  | n :: nals, k, start, aus => do
    let t ← type n
    if t < 1 || 5 < t then auLoop type nals (k + 1) start aus
    else if aus.length < 4096 then
      auLoop type nals (k + 1) (k + 1) (aus ++ [⟨start, k - start + 1⟩])
    else none

def loadWith (type : Nal → Option UInt8) : Option (List Nal × List AccessUnit) := do
  let nals ← scanLoop b code skip 0 []
  if nals.isEmpty then none
  else
    let nals := closeLast nals b.length
    let aus ← auLoop type nals 0 0 []
    some (nals, aus)

end Scanner

namespace Replay

def code (b : Bytes) (i : Nat) : Nat :=
  if b.getD i 0 = 0 ∧ b.getD (i + 1) 0 = 0 ∧ b.getD (i + 2) 0 = 1 then 3
  else if b.getD i 0 = 0 ∧ b.getD (i + 1) 0 = 0 ∧ b.getD (i + 2) 0 = 0 ∧ b.getD (i + 3) 0 = 1 then 4
  else 0

def nalType (b : Bytes) (n : Nal) : Option UInt8 := b[n.p]?.map (· &&& 0x1f)

/-- The NALs begin behind their start codes. -/
def load (b : Bytes) : Option (List Nal × List AccessUnit) := loadWith b (code b) id (nalType b)

end Replay

namespace FakeMpi

def code (b : Bytes) (i : Nat) : Nat :=
  let sc3 := b.getD i 0 = 0 ∧ b.getD (i + 1) 0 = 0 ∧ b.getD (i + 2) 0 = 1
  let sc4 := b.getD i 0 = 0 ∧ b.getD (i + 1) 0 = 0 ∧ b.getD (i + 2) 0 = 0 ∧ b.getD (i + 3) 0 = 1
  if ¬ sc3 ∧ ¬ sc4 then 0 else if sc4 then 4 else 3

def nalType (b : Bytes) (n : Nal) : Option UInt8 := do
  let c ← b[n.p + 2]?
  let h ← b[n.p + if c = 1 then 3 else 4]?
  some (h &&& 0x1f)

/-- The NALs begin with their start codes. -/
def loadStream (b : Bytes) : Option (List Nal × List AccessUnit) :=
  loadWith b (code b) (fun _ => 0) (nalType b)

end FakeMpi

/-! ## The start codes -/

theorem drop_four {b : Bytes} {i : Nat} (h : i + 3 < b.length) :
    ∃ rest, b.drop i =
      b.getD i 0 :: b.getD (i + 1) 0 :: b.getD (i + 2) 0 :: b.getD (i + 3) 0 :: rest := by
  refine ⟨b.drop (i + 4), ?_⟩
  have hget : ∀ k < 4, b.drop (i + k) = b.getD (i + k) 0 :: b.drop (i + k + 1) := by
    intro k hk
    rw [List.drop_eq_getElem_cons (by omega), List.getElem_eq_getD 0]
  rw [← hget 3 (by omega), ← hget 2 (by omega), ← hget 1 (by omega)]
  exact hget 0 (by omega)

theorem codeLength_four (w x y z : UInt8) (rest : Bytes) :
    codeLength (w :: x :: y :: z :: rest) =
      if w = 0 ∧ x = 0 ∧ y = 1 then 3 else if w = 0 ∧ x = 0 ∧ y = 0 ∧ z = 1 then 4 else 0 := by
  unfold codeLength
  split
  · simp_all
  · simp_all
  · next _ hshort hlong =>
    rw [if_neg fun h => hshort (z :: rest) (by rw [h.1, h.2.1, h.2.2]),
      if_neg fun h => hlong rest (by rw [h.1, h.2.1, h.2.2.1, h.2.2.2])]

/-- Both tests look for a start code. -/
theorem replay_code_eq {b : Bytes} {i : Nat} (h : i + 3 < b.length) :
    Replay.code b i = codeLength (b.drop i) := by
  obtain ⟨rest, hdrop⟩ := drop_four h
  rw [hdrop, codeLength_four]
  rfl

theorem fakeMpi_code_eq {b : Bytes} {i : Nat} (h : i + 3 < b.length) :
    FakeMpi.code b i = codeLength (b.drop i) := by
  obtain ⟨rest, hdrop⟩ := drop_four h
  rw [hdrop, codeLength_four]
  unfold FakeMpi.code
  dsimp only
  by_cases hshort : b.getD i 0 = 0 ∧ b.getD (i + 1) 0 = 0 ∧ b.getD (i + 2) 0 = 1
  · have hlong : ¬ (b.getD i 0 = 0 ∧ b.getD (i + 1) 0 = 0 ∧ b.getD (i + 2) 0 = 0 ∧
        b.getD (i + 3) 0 = 1) := fun hlong => by
      have hzero := hlong.2.2.1
      rw [hshort.2.2] at hzero
      exact absurd hzero (by decide)
    rw [if_neg fun hn => hn.1 hshort, if_neg hlong, if_pos hshort]
  · rw [if_neg hshort]
    split_ifs with hnone hlong
    · exact absurd hlong hnone.2
    · rfl
    · rfl
    · exact absurd ⟨hshort, ‹_›⟩ hnone

/-! ## The first loop -/

/-- Where the NALs of a stream lie from offset `o` on. -/
def placed (skip : Nat → Nat) : Nat → List (Bool × Bytes) → List Nal
  | _, [] => []
  | o, u :: units =>
    ⟨o + skip (startCode u.1).length,
      (startCode u.1).length + u.2.length - skip (startCode u.1).length⟩ ::
      placed skip (o + (startCode u.1).length + u.2.length) units

section Scan

variable {b : Bytes} {code skip : Nat → Nat}

theorem closeLast_snoc (nals : List Nal) (n : Nal) (i : Nat) :
    closeLast (nals ++ [n]) i = nals ++ [{ n with len := i - n.p }] := by
  rw [closeLast, List.getLast?_concat, List.dropLast_concat]

theorem closeLast_length (nals : List Nal) (i : Nat) : (closeLast nals i).length = nals.length := by
  rcases List.eq_nil_or_concat nals with rfl | ⟨front, n, rfl⟩
  · rfl
  · rw [List.concat_eq_append, closeLast_snoc, List.length_append, List.length_append]
    rfl

/-- The loop reads start codes. -/
def Reads (b : Bytes) (code : Nat → Nat) : Prop :=
  ∀ i, i + 3 < b.length → code i = codeLength (b.drop i)

/-- The loop passes over a NAL. -/
theorem scanLoop_inside (hcode : Reads b code) {before nal rest : Bytes} (hnal : Inside nal)
    (hb : b = before ++ (nal ++ rest)) (nals : List Nal) :
    scanLoop b code skip before.length nals =
      scanLoop b code skip (before.length + nal.length) nals := by
  induction nal generalizing before with
  | nil => rfl
  | cons x nal ih =>
      have hnext := @ih (before ++ [x]) hnal.tail (by rw [hb, List.append_assoc]; rfl)
      rw [List.length_append, List.length_singleton] at hnext
      rw [List.length_cons, ← Nat.add_assoc, Nat.add_right_comm, ← hnext]
      by_cases hmore : before.length + 3 < b.length
      · have hzero : code before.length = 0 := by
          rw [hcode _ hmore, hb, List.drop_left]
          exact codeLength_inside hnal rest
        rw [scanLoop, if_pos hmore, if_pos hzero]
      · have hdone : ¬ before.length + 1 + 3 < b.length := by omega
        rw [scanLoop, if_neg hmore, scanLoop, if_neg hdone]

/-- From a start code on, the loop finds the NALs of the stream, once the last is
closed. -/
theorem scanLoop_stream (hcode : Reads b code) {units : List (Bool × Bytes)}
    (hunits : ∀ u ∈ units, u.2 ≠ [] ∧ Inside u.2) {before : Bytes} (hb : b = before ++ stream units)
    {nals : List Nal} (hroom : nals.length + units.length ≤ 8192) :
    ∃ r, scanLoop b code skip before.length nals = some r ∧
      closeLast r b.length = closeLast nals before.length ++ placed skip before.length units := by
  induction units generalizing before nals with
  | nil =>
      have hlen : b.length = before.length := by
        rw [hb]
        exact congrArg List.length (List.append_nil before)
      refine ⟨nals, ?_, ?_⟩
      · rw [scanLoop, if_neg (by omega)]
      · rw [hlen, placed, List.append_nil]
  | cons u units ih =>
      obtain ⟨⟨hne, hinside⟩, hrest⟩ := List.forall_mem_cons.mp hunits
      have hpos := List.length_pos_iff.mpr hne
      have hlong : 3 ≤ (startCode u.1).length := by cases u.1 <;> decide
      have hsplit : b = before ++ (startCode u.1 ++ (u.2 ++ stream units)) := by
        rw [hb, stream, List.flatMap_cons, List.append_assoc]
        rfl
      have hmore : before.length + 3 < b.length := by
        rw [hsplit]
        simp only [List.length_append]
        omega
      have hat : code before.length = (startCode u.1).length := by
        rw [hcode _ hmore, hsplit, List.drop_left]
        exact codeLength_startCode _ _
      let opened :=
        closeLast nals before.length ++ [⟨before.length + skip (startCode u.1).length, 0⟩]
      have hopened : opened.length + units.length ≤ 8192 := by
        show (_ ++ [_]).length + _ ≤ _
        rw [List.length_append, closeLast_length]
        simp only [List.length_cons, List.length_nil] at hroom ⊢
        omega
      have hbehind : b = (before ++ startCode u.1 ++ u.2) ++ stream units := by
        rw [hsplit, List.append_assoc, List.append_assoc]
      obtain ⟨r, hr, hclosed⟩ := ih hrest hbehind hopened
      refine ⟨r, ?_, ?_⟩
      · have hpass :=
          @scanLoop_inside b code skip hcode (before ++ startCode u.1) u.2 (stream units)
          hinside (by rw [hsplit, List.append_assoc]) opened
        rw [scanLoop, if_pos hmore, hat, if_neg (by omega), if_pos (by simp at hroom; omega)]
        rw [List.length_append] at hr hpass
        rw [List.length_append] at hr
        exact hpass.trans hr
      · rw [hclosed, closeLast_snoc, placed, List.append_assoc, List.singleton_append]
        simp only [List.length_append]
        congr 3
        omega

end Scan

/-! ## What the NALs hold -/

section Bytes

variable {b : Bytes} {skip : Nat → Nat}

theorem placed_bytes (hskip : ∀ c, skip c ≤ c) {units : List (Bool × Bytes)} {before : Bytes}
    (hb : b = before ++ stream units) :
    (placed skip before.length units).map (Nal.bytes b) =
      units.map fun u => (startCode u.1 ++ u.2).drop (skip (startCode u.1).length) := by
  induction units generalizing before with
  | nil => rfl
  | cons u units ih =>
      have hsplit : b = before ++ (startCode u.1 ++ u.2 ++ stream units) := by
        rw [hb, stream, List.flatMap_cons]
        rfl
      have hle : skip (startCode u.1).length ≤ (startCode u.1 ++ u.2).length := by
        rw [List.length_append]
        exact Nat.le_add_right_of_le (hskip _)
      have hnext :=
        @ih (before ++ (startCode u.1 ++ u.2)) (by simp only [hsplit, List.append_assoc])
      rw [List.length_append, List.length_append, ← Nat.add_assoc] at hnext
      rw [placed, List.map_cons, List.map_cons, hnext]
      congr 1
      rw [Nal.bytes, hsplit, List.drop_length_add_append, List.drop_append_of_le_length hle,
        ← List.length_append, ← List.length_drop, List.take_left]

theorem Nal.getElem?_bytes {n : Nal} {s : Bytes} (h : n.bytes b = s) {k : Nat} {x : UInt8}
    (hx : s[k]? = some x) : b[n.p + k]? = some x := by
  subst h
  obtain ⟨hlt, -⟩ := List.getElem?_eq_some_iff.mp hx
  rw [Nal.bytes, List.length_take] at hlt
  rw [Nal.bytes, List.getElem?_take_of_lt (by omega), List.getElem?_drop] at hx
  exact hx

theorem replay_nalType {n : Nal} {nal : Bytes} (h : n.bytes b = nal) (hne : nal ≠ []) :
    Replay.nalType b n = some (headerType nal) := by
  obtain ⟨x, s, rfl⟩ := List.exists_cons_of_ne_nil hne
  have hfirst := Nal.getElem?_bytes h (List.getElem?_cons_zero)
  rw [Nat.add_zero] at hfirst
  rw [Replay.nalType, hfirst]
  rfl

theorem fakeMpi_nalType {n : Nal} {long : Bool} {nal : Bytes}
    (h : n.bytes b = startCode long ++ nal)
    (hne : nal ≠ []) : FakeMpi.nalType b n = some (headerType nal) := by
  obtain ⟨x, s, rfl⟩ := List.exists_cons_of_ne_nil hne
  cases long
  · have hone := @Nal.getElem?_bytes b n _ h 2 1 rfl
    have hfirst := @Nal.getElem?_bytes b n _ h 3 x rfl
    simp only [FakeMpi.nalType, hone, hfirst, Option.bind_eq_bind, Option.bind_some, if_true]
    rfl
  · have hzero := @Nal.getElem?_bytes b n _ h 2 0 rfl
    have hfirst := @Nal.getElem?_bytes b n _ h 4 x rfl
    have hne : ¬ (0 : UInt8) = 1 := by decide
    simp only [FakeMpi.nalType, hzero, hfirst, Option.bind_eq_bind, Option.bind_some, if_neg hne]
    rfl

end Bytes

/-! ## The second loop -/

/-- The access units depend on the types only. -/
theorem auLoop_congr {type type' : Nal → Option UInt8} {ns ns' : List Nal}
    (h : ns.map type = ns'.map type') (k start : Nat) (aus : List AccessUnit) :
    auLoop type ns k start aus = auLoop type' ns' k start aus := by
  induction ns generalizing ns' k start aus with
  | nil =>
      rw [List.map_nil, eq_comm, List.map_eq_nil_iff] at h
      subst h
      rfl
  | cons n ns ih =>
      cases ns' with
      | nil => exact absurd h (List.cons_ne_nil _ _)
      | cons n' ns' =>
          obtain ⟨htype, hrest⟩ := List.cons.inj h
          simp only [auLoop, htype, ih hrest]

theorem slice_test (nal : Bytes) :
    (decide (headerType nal < 1) || decide (5 < headerType nal)) = !isSlice nal := by
  rw [isSlice, Bool.not_and, ← decide_not, ← decide_not]
  simp only [UInt8.not_le]

theorem auLoop_grouped {type : Nal → Option UInt8} {nals : List Bytes}
    {ns : List Nal} {k start : Nat}
    {aus : List AccessUnit} (htypes : ns.map type = (nals.drop k).map fun n => some (headerType n))
    (h : Grouping isSlice nals k start aus) (hk : k ≤ nals.length)
    (hroom : aus.length + (nals.drop k).countP isSlice ≤ 4096) :
    ∃ aus', auLoop type ns k start aus = some aus' ∧ Grouped isSlice nals aus' := by
  induction ns generalizing k start aus with
  | nil =>
      rw [List.map_nil, eq_comm, List.map_eq_nil_iff, List.drop_eq_nil_iff] at htypes
      have hlen : k = nals.length := by omega
      subst hlen
      exact ⟨aus, rfl, h.grouped⟩
  | cons n ns ih =>
      have hlt : k < nals.length := by
        by_contra hge
        rw [List.drop_of_length_le (by omega)] at htypes
        exact absurd htypes (List.cons_ne_nil _ _)
      rw [List.drop_eq_getElem_cons hlt] at htypes hroom
      obtain ⟨htype, hrest⟩ := List.cons.inj htypes
      have hx := List.getElem?_eq_getElem hlt
      rw [List.countP_cons] at hroom
      simp only [auLoop, htype, Option.bind_eq_bind, Option.bind_some]
      cases hslice : isSlice nals[k] with
      | false =>
          rw [hslice, if_neg Bool.false_ne_true, Nat.add_zero] at hroom
          rw [slice_test, hslice, if_pos (show (!false) = true from rfl)]
          exact ih hrest (h.skip hx hslice) hlt hroom
      | true =>
          rw [hslice, if_pos rfl] at hroom
          rw [slice_test, hslice, if_neg (show ¬ (!true) = true from Bool.false_ne_true),
            if_pos (by omega)]
          refine ih hrest (h.close hx hslice) hlt ?_
          rw [List.length_append, List.length_singleton]
          omega

/-! ## The two loaders -/

/-- A NAL that the streams may hold. -/
structure Plain (nal : Bytes) : Prop extends Inside nal where
  nonempty : nal ≠ []

/-- The types of the NALs, from what they hold. -/
theorem types_eq {b : Bytes} {type : Nal → Option UInt8} {ns : List Nal}
    {units : List (Bool × Bytes)}
    {f : Bool × Bytes → Bytes} (hbytes : ns.map (Nal.bytes b) = units.map f)
    (htype : ∀ n, ∀ u ∈ units, n.bytes b = f u → type n = some (headerType u.2)) :
    ns.map type = (units.map Prod.snd).map fun nal => some (headerType nal) := by
  induction units generalizing ns with
  | nil =>
      rw [List.map_nil, List.map_eq_nil_iff] at hbytes
      rw [hbytes]
      rfl
  | cons u units ih =>
      cases ns with
      | nil => exact absurd hbytes.symm (List.cons_ne_nil _ _)
      | cons n ns =>
          obtain ⟨hfirst, hrest⟩ := List.cons.inj hbytes
          obtain ⟨hu, hunits⟩ := List.forall_mem_cons.mp (fun u hu n => htype n u hu)
          rw [List.map_cons, List.map_cons, List.map_cons, hu n hfirst,
            ih hrest fun n u hu => hunits u hu n]

section Loaders

variable {units : List (Bool × Bytes)} (hmax : units.length ≤ 8192)
  (hplain : ∀ u ∈ units, Plain u.2)
  (hpos : 0 < (units.map Prod.snd).countP isSlice)
  (hslices : (units.map Prod.snd).countP isSlice ≤ 4096)

include hmax hplain hpos hslices

/-- What either loader finds, from the types that it reads. -/
theorem loadWith_stream {code skip : Nat → Nat} {type : Nal → Option UInt8}
    (hcode : Reads (stream units) code)
    (htypes : (placed skip 0 units).map type =
      (units.map Prod.snd).map fun nal => some (headerType nal)) :
    ∃ aus, loadWith (stream units) code skip type = some (placed skip 0 units, aus) ∧
      Grouped isSlice (units.map Prod.snd) aus ∧
      auLoop type (placed skip 0 units) 0 0 [] = some aus := by
  obtain ⟨r, hr, hclosed⟩ := @scanLoop_stream (stream units) code skip hcode units
    (fun u hu => ⟨(hplain u hu).nonempty, (hplain u hu).toInside⟩) [] rfl []
    (by rw [List.length_nil]; omega)
  have hplaced : closeLast r (stream units).length = placed skip 0 units := hclosed
  have hsome : r.isEmpty = false := by
    cases r with
    | cons n r => rfl
    | nil =>
        have hlen := congrArg List.length hplaced
        cases units with
        | nil => exact absurd hpos (Nat.lt_irrefl 0)
        | cons u units => exact absurd hlen.symm (Nat.succ_ne_zero _)
  obtain ⟨aus, haus, hgrouped⟩ := auLoop_grouped htypes (Grouping.nil isSlice _) (Nat.zero_le _)
    (by rw [List.length_nil, List.drop_zero]; omega)
  refine ⟨aus, ?_, hgrouped, haus⟩
  have hscan : scanLoop (stream units) code skip 0 [] = some r := hr
  simp only [loadWith, hscan, Option.bind_eq_bind, Option.bind_some, hsome, Bool.false_eq_true,
    if_false, hplaced, haus]

/-- Both loaders recover the NALs, one without their start codes and one with them,
and group them into the same access units. -/
theorem loaders_agree :
    ∃ nals nals' aus, Replay.load (stream units) = some (nals, aus) ∧
      FakeMpi.loadStream (stream units) = some (nals', aus) ∧
      nals.map (Nal.bytes (stream units)) = units.map Prod.snd ∧
      nals'.map (Nal.bytes (stream units)) = (units.map fun u => startCode u.1 ++ u.2) ∧
      Grouped isSlice (units.map Prod.snd) aus ∧ aus ≠ [] := by
  have hbytes : (placed id 0 units).map (Nal.bytes (stream units)) = units.map Prod.snd := by
    refine (@placed_bytes (stream units) id (fun _ => Nat.le_refl _) units [] rfl).trans ?_
    exact List.map_congr_left fun u _ => List.drop_left
  have hbytes' : (placed (fun _ => 0) 0 units).map (Nal.bytes (stream units)) =
      units.map fun u => startCode u.1 ++ u.2 :=
    @placed_bytes (stream units) (fun _ => 0) (fun _ => Nat.zero_le _) units [] rfl
  have htypes : (placed id 0 units).map (Replay.nalType (stream units)) =
      (units.map Prod.snd).map fun nal => some (headerType nal) :=
    types_eq hbytes fun n u hu h => replay_nalType h (hplain u hu).nonempty
  have htypes' : (placed (fun _ => 0) 0 units).map (FakeMpi.nalType (stream units)) =
      (units.map Prod.snd).map fun nal => some (headerType nal) :=
    types_eq hbytes' fun n u hu h => fakeMpi_nalType h (hplain u hu).nonempty
  obtain ⟨aus, hload, hgrouped, haus⟩ := @loadWith_stream units hmax hplain hpos hslices
    (Replay.code (stream units)) id _ (fun _ h => replay_code_eq h) htypes
  obtain ⟨aus', hload', -, haus'⟩ := @loadWith_stream units hmax hplain hpos hslices
    (FakeMpi.code (stream units)) (fun _ => 0) _ (fun _ h => fakeMpi_code_eq h) htypes'
  rw [← auLoop_congr (htypes.trans htypes'.symm), haus, Option.some.injEq] at haus'
  subst haus'
  refine ⟨_, _, aus, hload, hload', hbytes, hbytes', hgrouped, ?_⟩
  rintro rfl
  obtain ⟨rest, hrest, hnone⟩ := hgrouped.cover
  rw [hrest] at hpos
  obtain ⟨nal, hmem, hslice⟩ := List.countP_pos_iff.mp hpos
  rw [hnone nal hmem] at hslice
  exact absurd hslice Bool.false_ne_true

end Loaders

/-- A parameter set and two slices, with start codes of both lengths. -/
def shortClip : List (Bool × Bytes) :=
  [(true, [0x67, 0x42]), (true, [0x65, 0, 0, 3]), (false, [0x41])]

theorem loaders_agree_sample :
    ∃ nals nals' aus, Replay.load (stream shortClip) = some (nals, aus) ∧
      FakeMpi.loadStream (stream shortClip) = some (nals', aus) ∧
      nals.map (Nal.bytes (stream shortClip)) = shortClip.map Prod.snd ∧
      nals'.map (Nal.bytes (stream shortClip)) = (shortClip.map fun u => startCode u.1 ++ u.2) ∧
      Grouped isSlice (shortClip.map Prod.snd) aus ∧ aus ≠ [] :=
  loaders_agree (by decide)
    (List.forall_mem_cons.mpr ⟨⟨⟨by decide, by decide, by decide⟩, by decide⟩,
      List.forall_mem_cons.mpr ⟨⟨⟨by decide, by decide, by decide⟩, by decide⟩,
        List.forall_mem_singleton.mpr ⟨⟨by decide, by decide, by decide⟩, by decide⟩⟩⟩)
    (by decide) (by decide)


end Oracle
end FH8852
