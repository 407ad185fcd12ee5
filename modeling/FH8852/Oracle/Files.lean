import FH8852.Oracle.Load
import Mathlib.Data.List.Forall2

/-!
# Any file

What the two loaders make of a file that need not be a stream: the same NALs, which
lie in the file, and the same access units.
-/

namespace FH8852
namespace Oracle

open CLib AnnexB

/-- The NAL without the start code that it begins with. -/
def behindCode (b : Bytes) (n : Nal) : Nal :=
  ⟨n.p + codeLength (b.drop n.p), n.len - codeLength (b.drop n.p)⟩

/-! ## The first loop -/

theorem codeLength_le (s : Bytes) : codeLength s ≤ 4 := by
  unfold codeLength
  split <;> omega

/-- A start code begins at the NAL, and the NAL is found before `i`. -/
structure Found (b : Bytes) (i : Nat) (n : Nal) : Prop where
  code : codeLength (b.drop n.p) ≠ 0
  before : n.p + codeLength (b.drop n.p) ≤ i
  inside : n.p + 3 < b.length

/-- The NAL is found, and it ends behind its start code and in the file. -/
structure Whole (b : Bytes) (n : Nal) : Prop where
  code : codeLength (b.drop n.p) ≠ 0
  inside : n.p + 3 < b.length
  len : codeLength (b.drop n.p) ≤ n.len
  ends : n.p + n.len ≤ b.length

/-- The NALs lie one behind the other from `p` to `q`. -/
def Tiles : (p : Nat) → List Nal → (q : Nat) → Prop
  | p, [], q => p = q
  | p, n :: nals, q => n.p = p ∧ Tiles (p + n.len) nals q

theorem Tiles.snoc {p q r : Nat} {nals : List Nal} (h : Tiles p nals q) (hr : q ≤ r) :
    Tiles p (nals ++ [⟨q, r - q⟩]) r := by
  induction nals generalizing p with
  | nil =>
      have hp : p = q := h
      exact ⟨hp.symm, by show p + (r - q) = r; omega⟩
  | cons n nals ih => exact ⟨h.1, ih h.2⟩

theorem Tiles.bytes {b : Bytes} {p q : Nat} {nals : List Nal} (h : Tiles p nals q) :
    p ≤ q ∧ (nals.map (Nal.bytes b)).flatten = (b.drop p).take (q - p) := by
  induction nals generalizing p with
  | nil =>
      have hp : p = q := h
      subst hp
      refine ⟨Nat.le_refl p, ?_⟩
      rw [Nat.sub_self]
      exact rfl
  | cons n nals ih =>
      obtain ⟨hp, hrest⟩ := h
      obtain ⟨hle, hbytes⟩ := ih hrest
      have hlen : q - p = n.len + (q - (p + n.len)) := by omega
      refine ⟨by omega, ?_⟩
      rw [List.map_cons, List.flatten_cons, hbytes, Nal.bytes, hp, hlen,
        List.take_add, List.drop_drop]

/-- What `load_stream` has found before `i`. -/
structure Scanned (b : Bytes) (i : Nat) (nals : List Nal) : Prop where
  found : ∀ n ∈ nals, Found b i n
  whole : ∀ n ∈ nals.dropLast, Whole b n
  few : nals.length ≤ 8192
  tiles : nals ≠ [] → ∃ p, ∀ j, i ≤ j → Tiles p (closeLast nals j) j

theorem Scanned.closed {b : Bytes} {i j : Nat} {nals : List Nal} (h : Scanned b i nals) (hj : i ≤ j)
    (hlen : j ≤ b.length) : ∀ n ∈ closeLast nals j, Whole b n := by
  rcases List.eq_nil_or_concat nals with rfl | ⟨front, last, rfl⟩
  · exact fun n hn => absurd hn List.not_mem_nil
  · have hwhole := h.whole
    have hlast := h.found last (by simp)
    rw [List.concat_eq_append] at hwhole ⊢
    rw [List.dropLast_concat] at hwhole
    have hbefore := hlast.before
    rw [closeLast_snoc]
    refine List.forall_mem_append.mpr ⟨hwhole,
      List.forall_mem_singleton.mpr ⟨hlast.code, hlast.inside, ?_, ?_⟩⟩
    · show codeLength (b.drop last.p) ≤ j - last.p
      omega
    · show last.p + (j - last.p) ≤ b.length
      omega

/-- Closing the last NAL changes no address. -/
theorem closeLast_found {b : Bytes} {i j : Nat} {nals : List Nal} (h : ∀ n ∈ nals, Found b i n) :
    ∀ n ∈ closeLast nals j, Found b i n := by
  rcases List.eq_nil_or_concat nals with rfl | ⟨front, last, rfl⟩
  · exact fun n hn => absurd hn List.not_mem_nil
  · rw [List.concat_eq_append] at h ⊢
    obtain ⟨hfront, hlast⟩ := List.forall_mem_append.mp h
    have hlast := List.forall_mem_singleton.mp hlast
    rw [closeLast_snoc]
    exact List.forall_mem_append.mpr
      ⟨hfront, List.forall_mem_singleton.mpr ⟨hlast.code, hlast.before, hlast.inside⟩⟩

theorem Scanned.later {b : Bytes} {i j : Nat} {nals : List Nal} (h : Scanned b i nals)
    (hj : i ≤ j) :
    Scanned b j nals where
  found n hn := ⟨(h.found n hn).code, (h.found n hn).before.trans hj, (h.found n hn).inside⟩
  whole := h.whole
  few := h.few
  tiles hne := (h.tiles hne).imp fun _ hp _ hk => hp _ (hj.trans hk)

theorem Scanned.next {b : Bytes} {i : Nat} {nals : List Nal} (h : Scanned b i nals)
    (hmore : i + 3 < b.length) (hcode : codeLength (b.drop i) ≠ 0) (hroom : nals.length < 8192) :
    Scanned b (i + codeLength (b.drop i)) (closeLast nals i ++ [⟨i, 0⟩]) := by
  refine ⟨?_, ?_, ?_, fun _ => ?_⟩
  · refine List.forall_mem_append.mpr ⟨?_,
      List.forall_mem_singleton.mpr ⟨hcode, Nat.le_refl _, hmore⟩⟩
    intro n hn
    have hfound := closeLast_found h.found n hn
    exact ⟨hfound.code, hfound.before.trans (Nat.le_add_right _ _), hfound.inside⟩
  · rw [List.dropLast_concat]
    exact h.closed (Nat.le_refl i) (by omega)
  · rw [List.length_append, closeLast_length]
    exact hroom
  · rcases List.eq_nil_or_concat nals with rfl | ⟨front, last, hlast⟩
    · refine ⟨i, fun j hj => ?_⟩
      exact ⟨rfl, by show i + (j - i) = j; omega⟩
    · have hne : nals ≠ [] := by
        rw [hlast, List.concat_eq_append]
        exact List.append_ne_nil_of_right_ne_nil _ (List.cons_ne_nil _ _)
      obtain ⟨p, hp⟩ := h.tiles hne
      refine ⟨p, fun j hj => ?_⟩
      rw [closeLast_snoc]
      exact (hp i (Nat.le_refl i)).snoc (by omega)

section Steps

variable {b : Bytes} {code skip : Nat → Nat} {i : Nat} {nals : List Nal}

theorem scanLoop_pass (hmore : i + 3 < b.length) (hnone : code i = 0) :
    scanLoop b code skip i nals = scanLoop b code skip (i + 1) nals := by
  rw [scanLoop, if_pos hmore, if_pos hnone]

theorem scanLoop_open (hmore : i + 3 < b.length) (hsome : ¬ code i = 0)
    (hroom : nals.length < 8192) :
    scanLoop b code skip i nals =
      scanLoop b code skip (i + code i) (closeLast nals i ++ [⟨i + skip (code i), 0⟩]) := by
  rw [scanLoop, if_pos hmore, if_neg hsome, if_pos hroom]

theorem scanLoop_full (hmore : i + 3 < b.length) (hsome : ¬ code i = 0)
    (hfull : ¬ nals.length < 8192) :
    scanLoop b code skip i nals = none := by
  rw [scanLoop, if_pos hmore, if_neg hsome, if_neg hfull]

theorem scanLoop_done (hdone : ¬ i + 3 < b.length) : scanLoop b code skip i nals = some nals := by
  rw [scanLoop, if_neg hdone]

end Steps

/-- The first loop of `load_stream` keeps what holds of the NALs. -/
theorem scanLoop_scanned {b : Bytes} {code : Nat → Nat} (hcode : Reads b code) {i : Nat}
    {nals r : List Nal} (h : Scanned b i nals)
      (hscan : scanLoop b code (fun _ => 0) i nals = some r) :
    ∃ j, Scanned b j r ∧ (j ≤ b.length ∨ j = i) := by
  induction i, nals using scanLoop.induct b code (fun _ => 0) with
  | case1 i nals hmore hnone ih =>
      rw [scanLoop_pass hmore hnone] at hscan
      obtain ⟨j, hj, hle⟩ := ih (h.later (Nat.le_succ i)) hscan
      exact ⟨j, hj, .inl (by omega)⟩
  | case2 i nals hmore hsome hroom ih =>
      have hcodei := hcode i hmore
      have hle := codeLength_le (b.drop i)
      rw [scanLoop_open hmore hsome hroom, hcodei] at hscan
      rw [hcodei] at ih hsome
      obtain ⟨j, hj, hlater⟩ := ih (h.next hmore hsome hroom) hscan
      exact ⟨j, hj, .inl (by omega)⟩
  | case3 i nals hmore hsome hfull =>
      rw [scanLoop_full hmore hsome hfull] at hscan
      cases hscan
  | case4 i nals hdone =>
      rw [scanLoop_done hdone, Option.some.injEq] at hscan
      exact ⟨i, hscan ▸ h, .inr rfl⟩

/-- Closing the last NAL commutes with leaving out the start codes. -/
theorem closeLast_behindCode (b : Bytes) (nals : List Nal) (i : Nat) :
    closeLast (nals.map (behindCode b)) i = (closeLast nals i).map (behindCode b) := by
  rcases List.eq_nil_or_concat nals with rfl | ⟨front, last, rfl⟩
  · rfl
  · have hlast : ({ behindCode b last with len := i - (behindCode b last).p } : Nal) =
        behindCode b { last with len := i - last.p } := by
      show Nal.mk _ (i - (last.p + codeLength (b.drop last.p))) = Nal.mk _ (i - last.p - _)
      rw [Nat.sub_add_eq]
      exact rfl
    rw [List.concat_eq_append, List.map_append, List.map_singleton, closeLast_snoc, closeLast_snoc,
      List.map_append, List.map_singleton, hlast]

/-- Both programs go through the file in the same steps. -/
theorem scanLoop_behindCode {b : Bytes} {code code' : Nat → Nat} (hcode : Reads b code)
    (hcode' : Reads b code') (i : Nat) (nals : List Nal) :
    scanLoop b code' id i (nals.map (behindCode b)) =
      (scanLoop b code (fun _ => 0) i nals).map (List.map (behindCode b)) := by
  induction i, nals using scanLoop.induct b code (fun _ => 0) with
  | case1 i nals hmore hnone ih =>
      have hnone' : code' i = 0 := (hcode' i hmore).trans ((hcode i hmore).symm.trans hnone)
      rw [scanLoop_pass hmore hnone', ih, scanLoop_pass hmore hnone]
  | case2 i nals hmore hsome hroom ih =>
      have hsame : code' i = code i := (hcode' i hmore).trans (hcode i hmore).symm
      have hsome' : ¬ code' i = 0 := by rwa [hsame]
      have hroom' : (nals.map (behindCode b)).length < 8192 := by rwa [List.length_map]
      have hopened : (closeLast nals i ++ [Nal.mk (i + 0) 0]).map (behindCode b) =
          closeLast (nals.map (behindCode b)) i ++ [Nal.mk (i + id (code' i)) 0] := by
        have hnal : behindCode b ⟨i + 0, 0⟩ = ⟨i + id (code' i), 0⟩ := by
          rw [hcode' i hmore]
          show Nal.mk _ (0 - codeLength (b.drop i)) = _
          rw [Nat.zero_sub]
          exact rfl
        rw [closeLast_behindCode, List.map_append, List.map_singleton, hnal]
      rw [scanLoop_open hmore hsome' hroom', ← hopened, hsame, ih, scanLoop_open hmore hsome hroom]
  | case3 i nals hmore hsome hfull =>
      have hsome' : ¬ code' i = 0 := by rwa [(hcode' i hmore).trans (hcode i hmore).symm]
      have hfull' : ¬ (nals.map (behindCode b)).length < 8192 := by rwa [List.length_map]
      rw [scanLoop_full hmore hsome' hfull', scanLoop_full hmore hsome hfull]
      exact rfl
  | case4 i nals hdone =>
      rw [scanLoop_done hdone, scanLoop_done hdone]
      exact rfl

/-! ## The bytes of a NAL -/

theorem codeLength_startsWith {s : Bytes} (h : codeLength s ≠ 0) :
    ∃ long, (startCode long).length = codeLength s ∧ startCode long <+: s := by
  unfold codeLength at h ⊢
  split
  · exact ⟨false, rfl, _, rfl⟩
  · exact ⟨true, rfl, _, rfl⟩
  · rename_i hshort hlong
    split at h
    · exact absurd rfl (hshort _)
    · exact absurd rfl (hlong _)
    · exact absurd rfl h

/-- A NAL of `load_stream` is a start code and what `load` makes of it. -/
theorem Whole.bytes {b : Bytes} {n : Nal} (h : Whole b n) :
    ∃ long, (startCode long).length = codeLength (b.drop n.p) ∧
      n.bytes b = startCode long ++ (behindCode b n).bytes b := by
  obtain ⟨long, hlen, rest, hrest⟩ := codeLength_startsWith h.code
  have hle := h.len
  refine ⟨long, hlen, ?_⟩
  show (b.drop n.p).take n.len = startCode long ++
    (b.drop (n.p + codeLength (b.drop n.p))).take (n.len - codeLength (b.drop n.p))
  rw [← List.drop_drop, ← hlen, ← hrest, List.drop_left]
  have hsplit : n.len = (startCode long).length + (n.len - (startCode long).length) := by omega
  conv_lhs => rw [hsplit]
  exact List.take_length_add_append _

/-- Both programs read the same type. -/
theorem Whole.type {b : Bytes} {n : Nal} (h : Whole b n) :
    Replay.nalType b (behindCode b n) = FakeMpi.nalType b n := by
  obtain ⟨long, hlen, rest, hrest⟩ := codeLength_startsWith h.code
  have hat : ∀ k, b[n.p + k]? = (startCode long ++ rest)[k]? := by
    intro k
    rw [hrest, List.getElem?_drop]
  rw [Replay.nalType, FakeMpi.nalType]
  show Option.map _ b[n.p + codeLength (b.drop n.p)]? = _
  rw [← hlen, hat, hat]
  cases long
  · show _ = Option.bind (some (1 : UInt8)) _
    rw [Option.bind_some, if_pos rfl, hat, Option.map_eq_bind]
    exact rfl
  · show _ = Option.bind (some (0 : UInt8)) _
    rw [Option.bind_some, if_neg (by decide), hat, Option.map_eq_bind]
    exact rfl

/-! ## The second loop -/

/-- The access units lie in the file, and none is empty. -/
def InRange (count : Nat) (u : AccessUnit) : Prop := u.first + u.count ≤ count ∧ 0 < u.count

theorem auLoop_cons {type : Nal → Option UInt8} {n : Nal} {ns : List Nal} {k start : Nat}
    {aus r : List AccessUnit} (h : auLoop type (n :: ns) k start aus = some r) :
    ∃ t, type n = some t ∧ (auLoop type ns (k + 1) start aus = some r ∨
      (aus.length < 4096 ∧
        auLoop type ns (k + 1) (k + 1) (aus ++ [⟨start, k - start + 1⟩]) = some r)) := by
  rw [auLoop] at h
  obtain ⟨t, ht, h⟩ := Option.bind_eq_some_iff.mp h
  refine ⟨t, ht, ?_⟩
  split at h
  · exact .inl h
  · split at h
    · exact .inr ⟨‹_›, h⟩
    · cases h

theorem auLoop_types {type : Nal → Option UInt8} {ns : List Nal} {k start : Nat}
    {aus r : List AccessUnit}
    (h : auLoop type ns k start aus = some r) : ∀ n ∈ ns, (type n).isSome := by
  induction ns generalizing k start aus with
  | nil => exact fun n hn => absurd hn List.not_mem_nil
  | cons n ns ih =>
      obtain ⟨t, ht, hrest⟩ := auLoop_cons h
      refine List.forall_mem_cons.mpr ⟨by rw [ht]; rfl, ?_⟩
      rcases hrest with hrest | ⟨-, hrest⟩
      · exact ih hrest
      · exact ih hrest

theorem auLoop_inRange {type : Nal → Option UInt8} {ns : List Nal} {k start : Nat}
    {aus r : List AccessUnit} (h : auLoop type ns k start aus = some r) (hstart : start ≤ k)
    (haus : ∀ u ∈ aus, InRange (k + ns.length) u) (hfew : aus.length ≤ 4096) :
    (∀ u ∈ r, InRange (k + ns.length) u) ∧ r.length ≤ 4096 := by
  induction ns generalizing k start aus with
  | nil =>
      rw [auLoop, Option.some.injEq] at h
      exact h ▸ ⟨haus, hfew⟩
  | cons n ns ih =>
      have hlen : k + (n :: ns).length = k + 1 + ns.length := by
        rw [List.length_cons]
        omega
      rw [hlen] at haus ⊢
      obtain ⟨t, -, hskip | ⟨hroom, hclose⟩⟩ := auLoop_cons h
      · exact ih hskip (by omega) haus hfew
      · refine ih hclose (Nat.le_refl _) ?_ ?_
        · refine List.forall_mem_append.mpr ⟨haus, List.forall_mem_singleton.mpr ⟨?_, ?_⟩⟩
          · show start + (k - start + 1) ≤ _
            omega
          · show 0 < k - start + 1
            omega
        · rw [List.length_append, List.length_singleton]
          omega

/-! ## The two loaders -/

/-- What `load_stream` leaves of any file: NALs that lie one behind the other up to the
end of the file, and access units of them. -/
structure Loaded (b : Bytes) (nals : List Nal) (aus : List AccessUnit) : Prop where
  whole : ∀ n ∈ nals, Whole b n
  few : nals.length ≤ 8192
  tiles : ∃ p, Tiles p nals b.length
  types : ∀ n ∈ nals, (FakeMpi.nalType b n).isSome
  units : ∀ u ∈ aus, InRange nals.length u
  unitsFew : aus.length ≤ 4096

theorem scanned_start (b : Bytes) : Scanned b 0 [] :=
  ⟨fun _ hn => absurd hn List.not_mem_nil, fun _ hn => absurd hn List.not_mem_nil, Nat.zero_le _,
    fun hne => absurd rfl hne⟩

/-- What the first loop of `load_stream` leaves. -/
theorem scan_scanned {b : Bytes} {r : List Nal}
    (h : scanLoop b (FakeMpi.code b) (fun _ => 0) 0 [] = some r) :
    ∃ j, j ≤ b.length ∧ Scanned b j r := by
  obtain ⟨j, hscanned, hj⟩ := scanLoop_scanned (fun _ hi => fakeMpi_code_eq hi) (scanned_start b) h
  exact ⟨j, by omega, hscanned⟩

theorem loadStream_loaded {b : Bytes} {nals : List Nal} {aus : List AccessUnit}
    (h : FakeMpi.loadStream b = some (nals, aus)) : Loaded b nals aus := by
  unfold FakeMpi.loadStream loadWith at h
  obtain ⟨r, hscan, h⟩ := Option.bind_eq_some_iff.mp h
  split at h
  · cases h
  · rename_i hsome
    obtain ⟨units, haus, h⟩ := Option.bind_eq_some_iff.mp h
    obtain ⟨rfl, rfl⟩ := Prod.mk.inj (Option.some.inj h)
    obtain ⟨j, hj, hscanned⟩ := scan_scanned hscan
    obtain ⟨p, hp⟩ := hscanned.tiles fun hnil => hsome (by rw [hnil]; rfl)
    obtain ⟨hunits, hunitsFew⟩ := auLoop_inRange haus (Nat.le_refl 0)
      (fun u hu => absurd hu List.not_mem_nil) (Nat.zero_le _)
    rw [Nat.zero_add] at hunits
    refine ⟨hscanned.closed hj (Nat.le_refl _), ?_, ⟨p, hp _ hj⟩, auLoop_types haus,
      hunits, hunitsFew⟩
    rw [closeLast_length]
    exact hscanned.few

/-- `load` makes the same of a file as `load_stream`, but for the start codes. -/
theorem load_eq (b : Bytes) :
    Replay.load b = (FakeMpi.loadStream b).map fun r => (r.1.map (behindCode b), r.2) := by
  have hscan := scanLoop_behindCode (b := b) (fun _ hi => fakeMpi_code_eq hi)
    (fun _ hi => replay_code_eq hi) 0 []
  rw [List.map_nil] at hscan
  rw [Replay.load, FakeMpi.loadStream, loadWith, loadWith, hscan]
  cases hfake : scanLoop b (FakeMpi.code b) (fun _ => 0) 0 [] with
  | none => rfl
  | some r =>
      simp only [Option.map_some, Option.bind_eq_bind, Option.bind_some, List.isEmpty_map]
      cases r.isEmpty with
      | true => rfl
      | false =>
          obtain ⟨j, hj, hscanned⟩ := scan_scanned hfake
          have htypes : ((closeLast r b.length).map (behindCode b)).map (Replay.nalType b) =
              (closeLast r b.length).map (FakeMpi.nalType b) := by
            rw [List.map_map]
            exact List.map_congr_left fun n hn => (hscanned.closed hj (Nat.le_refl _) n hn).type
          simp only [Bool.false_eq_true, if_false, closeLast_behindCode, auLoop_congr htypes]
          cases auLoop (FakeMpi.nalType b) (closeLast r b.length) 0 0 [] <;> rfl

/-- Both programs load the same of every file: where one fails so does the other, and
else they find the same access units of the same NALs.  The NALs of `load_stream`,
each a start code and the NAL of `load`, make up the file from the first of them on,
and the access units are not empty and lie among them. -/
theorem load_any_file (b : Bytes) :
    (FakeMpi.loadStream b = none ∧ Replay.load b = none) ∨
      ∃ nals nals' aus, FakeMpi.loadStream b = some (nals, aus) ∧
        Replay.load b = some (nals', aus) ∧
        List.Forall₂ (fun n n' => ∃ long, n.bytes b = startCode long ++ n'.bytes b) nals nals' ∧
        (∃ before, b = before ++ (nals.map (Nal.bytes b)).flatten) ∧
        ∀ u ∈ aus, u.first + u.count ≤ nals.length ∧ 0 < u.count := by
  rw [load_eq]
  cases h : FakeMpi.loadStream b with
  | none => exact .inl ⟨rfl, rfl⟩
  | some r =>
      obtain ⟨nals, aus⟩ := r
      have hloaded := loadStream_loaded h
      refine .inr ⟨nals, _, aus, rfl, rfl, ?_, ?_, hloaded.units⟩
      · rw [List.forall₂_map_right_iff, List.forall₂_same]
        exact fun n hn => (hloaded.whole n hn).bytes.imp fun _ hlong => hlong.2
      · obtain ⟨p, hp⟩ := hloaded.tiles
        refine ⟨b.take p, ?_⟩
        rw [hp.bytes.2, ← List.length_drop, List.take_length, List.take_append_drop]

end Oracle
end FH8852
