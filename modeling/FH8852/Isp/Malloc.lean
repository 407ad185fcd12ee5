import Mathlib.Data.Nat.Bitwise
import FH8852.Isp.BufAddr
import FH8852.Lib.Bump
import FH8852.Lib.History

/-!
# The ISP memory pool

`isp_malloc` computes in 32 bits.  It is a bump allocator as long as the end of
the region asked for, computed exactly, stays below 2 ^ 32.
-/

namespace FH8852
namespace Isp

open Bump History

/-! ## The arithmetic -/

/-- No alignment counts as an alignment of 1. -/
def alignTerm (align : UInt32) : UInt32 := if align ≠ 0 then align else 1

def alignedAddr (core : IspCore) (align : UInt32) : UInt32 :=
  (core.poolPhysBase + core.poolCursor + alignTerm align - 1) &&& ~~~(alignTerm align - 1)

def poolEnd (core : IspCore) : UInt32 := core.poolPhysBase + core.poolTotalSize

/-- Where the exact computation places a region. -/
def exactStart (core : IspCore) (align : UInt32) : Nat :=
  roundUp (alignTerm align).toNat (core.poolPhysBase.toNat + core.poolCursor.toNat)

/-- The alignment is 0 or a power of two. -/
def ValidAlign (align : UInt32) : Prop := align = 0 ∨ ∃ k, align.toNat = 2 ^ k

theorem ispMalloc_eq {core : IspCore} {size align physOut : UInt32} (hsize : size ≠ 0) :
    ispMalloc core size align physOut =
      if poolEnd core < size + alignedAddr core align then ⟨asInt 0xa008400e, physOut, core⟩
      else ⟨0, alignedAddr core align,
        { core with poolCursor := size + alignedAddr core align - core.poolPhysBase }⟩ := by
  have hmask : (if align ≠ 0 then ~~~(align - 1) else 0xffffffff) = ~~~(alignTerm align - 1) := by
    unfold alignTerm
    split <;> rfl
  rw [ispMalloc, if_neg hsize]
  simp only [hmask]
  rfl

/-- The mask of an alignment clears the low bits. -/
theorem and_mask {x k : Nat} (hk : k ≤ 31) (hx : x < 2 ^ 32) :
    x &&& (2 ^ 32 - 2 ^ k) = x / 2 ^ k * 2 ^ k := by
  have hpow : 2 ^ k ≤ 2 ^ 31 := Nat.pow_le_pow_right (by omega) hk
  have hpos := Nat.two_pow_pos k
  have hmask : 2 ^ 32 - 2 ^ k = 2 ^ 32 - (2 ^ k - 1 + 1) := by omega
  rw [hmask]
  refine Nat.eq_of_testBit_eq fun i => ?_
  rw [Nat.testBit_and, Nat.testBit_two_pow_sub_succ (by omega), Nat.testBit_two_pow_sub_one,
    ← Nat.shiftRight_eq_div_pow, ← Nat.shiftLeft_eq, Nat.testBit_shiftLeft, Nat.testBit_shiftRight]
  by_cases hki : k ≤ i
  · have hsum : k + (i - k) = i := by omega
    rw [hsum]
    by_cases hi : i < 32
    · simp [hki, hi]
    · have hlow : x.testBit i = false := by
        refine Nat.testBit_lt_two_pow (Nat.lt_of_lt_of_le hx ?_)
        exact Nat.pow_le_pow_right (by omega) (by omega)
      simp [hlow]
  · have hlt : i < k := by omega
    simp [hki, hlt]

theorem alignTerm_pow {align : UInt32} (h : ValidAlign align) :
    ∃ k, k ≤ 31 ∧ (alignTerm align).toNat = 2 ^ k := by
  unfold alignTerm
  rcases h with rfl | ⟨k, hk⟩
  · exact ⟨0, by omega, rfl⟩
  · have hne : align ≠ 0 := by
      rintro rfl
      exact absurd hk.symm (Nat.two_pow_pos k).ne'
    rw [if_pos hne]
    refine ⟨k, ?_, hk⟩
    have hlt := align.toNat_lt
    rw [hk] at hlt
    have hexp := (Nat.pow_lt_pow_iff_right (by omega)).mp hlt
    omega

/-- The code computes the place of a region modulo 2 ^ 32. -/
theorem alignedAddr_toNat (core : IspCore) {align : UInt32} (h : ValidAlign align) :
    (alignedAddr core align).toNat = exactStart core align % 2 ^ 32 := by
  obtain ⟨k, hk, hpow⟩ := alignTerm_pow h
  have hpos := Nat.two_pow_pos k
  have hle : 2 ^ k ≤ 2 ^ 31 := Nat.pow_le_pow_right (by omega) hk
  have h1 : (1 : UInt32).toNat = 1 := rfl
  have hsub : (alignTerm align - 1).toNat = 2 ^ k - 1 := by
    rw [UInt32.toNat_sub, hpow, h1]
    omega
  have hsum : (core.poolPhysBase + core.poolCursor + alignTerm align - 1).toNat =
      (core.poolPhysBase.toNat + core.poolCursor.toNat + (2 ^ k - 1)) % 2 ^ 32 := by
    rw [UInt32.toNat_sub, UInt32.toNat_add, UInt32.toNat_add, hpow, h1]
    omega
  have hsplit : 2 ^ 32 = 2 ^ k * 2 ^ (32 - k) := by
    rw [← Nat.pow_add]
    congr 1
    omega
  have hnot : (~~~(alignTerm align - 1)).toNat = 2 ^ 32 - 2 ^ k := by
    rw [UInt32.toNat_not, hsub]
    show 2 ^ 32 - 1 - (2 ^ k - 1) = _
    omega
  rw [alignedAddr, UInt32.toNat_and, hsum, hnot, and_mask hk (Nat.mod_lt _ (by omega)), exactStart,
    roundUp, hpow]
  generalize core.poolPhysBase.toNat + core.poolCursor.toNat + (2 ^ k - 1) = x
  rw [hsplit, Nat.mod_mul_right_div_self, Nat.mul_comm (2 ^ k) (2 ^ (32 - k)),
    Nat.mul_mod_mul_right]

/-! ## One call -/

/-- Where the region asked for ends, computed exactly. -/
def exactEnd (core : IspCore) (size align : UInt32) : Nat := exactStart core align + size.toNat

/-- The pool lies below 2 ^ 32, and the regions are packed below its cursor. -/
structure PoolAt (base limit : Nat) (regions : List Region) (core : IspCore) : Prop where
  base_eq : core.poolPhysBase.toNat = base
  limit_eq : core.poolPhysBase.toNat + core.poolTotalSize.toNat = limit
  limit_lt : limit < 2 ^ 32
  packed : Packed base limit (base + core.poolCursor.toNat) regions

/-- The core after a region has been handed out. -/
def bumped (core : IspCore) (size align : UInt32) : IspCore :=
  { core with poolCursor := size + alignedAddr core align - core.poolPhysBase }

theorem alignTerm_pos {align : UInt32} (h : ValidAlign align) : 0 < (alignTerm align).toNat := by
  obtain ⟨k, -, hpow⟩ := alignTerm_pow h
  rw [hpow]
  exact Nat.two_pow_pos k

theorem size_pos {size : UInt32} (h : size ≠ 0) : 0 < size.toNat :=
  Nat.pos_of_ne_zero fun hzero => h (UInt32.toNat_inj.mp hzero)

section Call

variable {base limit : Nat} {placed : List Region} {core : IspCore} {size align : UInt32}

theorem PoolAt.fresh (hfresh : core.poolCursor = 0)
    (hpool : core.poolPhysBase.toNat + core.poolTotalSize.toNat < 2 ^ 32) :
    PoolAt core.poolPhysBase.toNat (core.poolPhysBase.toNat + core.poolTotalSize.toNat)
      [] core := by
  refine ⟨rfl, rfl, hpool, ?_⟩
  rw [hfresh]
  exact Packed.empty (Nat.le_add_right _ _)

variable (hpool : PoolAt base limit placed core) (halign : ValidAlign align)

include hpool halign

/-- The check of `isp_malloc` compares the cut end with the end of the pool. -/
theorem refuses_iff :
    poolEnd core < size + alignedAddr core align ↔ limit < exactEnd core size align % 2 ^ 32 := by
  have hend : (poolEnd core).toNat = limit := by
    rw [poolEnd, UInt32.toNat_add, hpool.limit_eq]
    exact Nat.mod_eq_of_lt hpool.limit_lt
  have hsum : (size + alignedAddr core align).toNat = exactEnd core size align % 2 ^ 32 := by
    rw [UInt32.toNat_add, alignedAddr_toNat core halign, exactEnd, Nat.add_comm]
    exact Nat.mod_add_mod _ _ _
  rw [UInt32.lt_iff_toNat_lt, hend, hsum]

theorem ispMalloc_refused (hsize : size ≠ 0) (hrefuses : limit < exactEnd core size align % 2 ^ 32)
    (physOut : UInt32) :
    ispMalloc core size align physOut = ⟨asInt 0xa008400e, physOut, core⟩ := by
  rw [ispMalloc_eq hsize, if_pos ((refuses_iff hpool halign).mpr hrefuses)]

theorem ispMalloc_granted (hsize : size ≠ 0) (hgrants : exactEnd core size align % 2 ^ 32 ≤ limit)
    (physOut : UInt32) :
    ispMalloc core size align physOut = ⟨0, alignedAddr core align, bumped core size align⟩ := by
  have hgrants : ¬ poolEnd core < size + alignedAddr core align := by
    rw [refuses_iff hpool halign]
    omega
  rw [ispMalloc_eq hsize, if_neg hgrants]
  rfl

theorem exactStart_bounds :
    base + core.poolCursor.toNat ≤ exactStart core align ∧
      exactStart core align < base + core.poolCursor.toNat + (alignTerm align).toNat := by
  have hbounds := roundUp_bounds (alignTerm_pos halign)
    (core.poolPhysBase.toNat + core.poolCursor.toNat)
  rw [hpool.base_eq] at hbounds
  rw [exactStart, hpool.base_eq]
  exact hbounds

/-- A region whose exact end is in the pool starts where the exact computation
places it, and the cursor moves to its end. -/
theorem bumped_exact (hend : exactEnd core size align ≤ limit) :
    (alignedAddr core align).toNat = exactStart core align ∧
      base + (bumped core size align).poolCursor.toNat = exactEnd core size align := by
  have hlimit := hpool.limit_lt
  have hbase := hpool.base_eq
  have hbounds := exactStart_bounds hpool halign
  have haligned := alignedAddr_toNat core halign
  unfold exactEnd at hend ⊢
  rw [Nat.mod_eq_of_lt (by omega)] at haligned
  refine ⟨haligned, ?_⟩
  show base + (size + alignedAddr core align - core.poolPhysBase).toNat = _
  rw [UInt32.toNat_sub, UInt32.toNat_add, haligned, hbase]
  omega

/-- Such a region is the next one packed. -/
theorem bumped_packed (hsize : size ≠ 0) (hend : exactEnd core size align ≤ limit) :
    PoolAt base limit (placed ++ [⟨exactStart core align, size.toNat⟩])
      (bumped core size align) := by
  obtain ⟨-, hcursor⟩ := bumped_exact hpool halign hend
  have hstart : exactStart core align =
      roundUp (alignTerm align).toNat (base + core.poolCursor.toNat) := by
    rw [exactStart, hpool.base_eq]
  refine ⟨hpool.base_eq, hpool.limit_eq, hpool.limit_lt, ?_⟩
  rw [exactEnd, hstart] at hend
  rw [hcursor, exactEnd, hstart]
  exact hpool.packed.alloc (alignTerm_pos halign) (size_pos hsize) hend

/-- A region that starts at 2 ^ 32 or beyond starts there exactly, and not at the
start of the pool. -/
theorem exactStart_wrapped (hlimit : base + core.poolCursor.toNat < 2 ^ 32)
    (hwraps : 2 ^ 32 ≤ exactStart core align) :
    exactStart core align = 2 ^ 32 ∧ base + core.poolCursor.toNat ≠ 0 := by
  obtain ⟨k, hk, hpow⟩ := alignTerm_pow halign
  have hbounds := exactStart_bounds hpool halign
  have hdvd : 2 ^ k ∣ exactStart core align - 2 ^ 32 :=
    Nat.dvd_sub (hpow ▸ dvd_roundUp _ _) (Nat.pow_dvd_pow 2 (by omega))
  rw [hpow] at hbounds
  have hover : exactStart core align - 2 ^ 32 = 0 := by
    refine Nat.eq_zero_of_dvd_of_lt hdvd ?_
    omega
  refine ⟨by omega, fun hstart => ?_⟩
  rw [exactStart, hpool.base_eq, hstart, roundUp_zero] at hwraps
  omega

end Call

/-! ## Runs -/

structure Call where
  size : UInt32
  align : UInt32
  /-- What the output address holds before the call. -/
  physOut : UInt32

structure MallocStep where
  core : IspCore
  call : Call
  result : Malloc

/-- A sequence of calls of `isp_malloc`. -/
def mallocs (core : IspCore) : List Call → List MallocStep
  | [] => []
  | c :: cs =>
    let r := ispMalloc core c.size c.align c.physOut
    ⟨core, c, r⟩ :: mallocs r.core cs

/-- The region a call returns, if it returns one. -/
def MallocStep.region (s : MallocStep) : Option Region :=
  if s.call.size ≠ 0 ∧ s.result.ret = 0 then
    some ⟨s.result.physOut.toNat, s.call.size.toNat⟩
  else none

def regions (l : List MallocStep) : List Region := l.filterMap MallocStep.region

/-- The call fails and leaves everything as it is. -/
def MallocStep.Refused (s : MallocStep) : Prop :=
  s.result.ret < 0 ∧ s.result.physOut = s.call.physOut ∧ s.result.core = s.core

/-- The call returns an aligned region of its own in the pool from `base` to
`limit`. -/
structure MallocStep.Placed (base limit : Nat) (before : List MallocStep) (s : MallocStep) :
    Prop where
  ret : s.result.ret = 0
  aligned : s.call.align ≠ 0 → s.call.align.toNat ∣ s.result.physOut.toNat
  base_le : base ≤ s.result.physOut.toNat
  le_limit : s.result.physOut.toNat + s.call.size.toNat ≤ limit
  apart : ∀ r ∈ regions before, r.Disjoint ⟨s.result.physOut.toNat, s.call.size.toNat⟩

/-- What a call owes its caller after the calls `before`. -/
def Sound (base limit : Nat) (before : List MallocStep) (s : MallocStep) : Prop :=
  if s.call.size = 0 then s.result.physOut = s.call.physOut ∧ s.result.core = s.core
  else s.Refused ∨ s.Placed base limit before

def MallocStep.exactEnd (s : MallocStep) : Nat := Isp.exactEnd s.core s.call.size s.call.align

/-- The end of the region asked for is below 2 ^ 32, or is beyond the pool even
when it is cut to 32 bits. -/
def Representable (limit : Nat) (s : MallocStep) : Prop :=
  s.call.size = 0 ∨ s.exactEnd < 2 ^ 32 ∨ limit < s.exactEnd % 2 ^ 32

/-- A step of a sequence of calls. -/
structure MallocStep.Valid (s : MallocStep) : Prop where
  result : s.result = ispMalloc s.core s.call.size s.call.align s.call.physOut
  align : ValidAlign s.call.align

section Step

variable {base limit : Nat} {before : List MallocStep} {s : MallocStep}

theorem step_refused (hpool : PoolAt base limit (regions before) s.core) (h : s.Valid)
    (hsize : s.call.size ≠ 0) (hrefuses : limit < s.exactEnd % 2 ^ 32) : s.Refused := by
  unfold MallocStep.Refused
  rw [h.result, ispMalloc_refused hpool h.align hsize hrefuses]
  exact ⟨show asInt 0xa008400e < 0 by decide, rfl, rfl⟩

theorem step_granted (hpool : PoolAt base limit (regions before) s.core) (h : s.Valid)
    (hsize : s.call.size ≠ 0) (hgrants : s.exactEnd % 2 ^ 32 ≤ limit) :
    s.result = ⟨0, alignedAddr s.core s.call.align, bumped s.core s.call.size s.call.align⟩ :=
  h.result.trans (ispMalloc_granted hpool h.align hsize hgrants s.call.physOut)

theorem step_packed (hpool : PoolAt base limit (regions before) s.core) (h : s.Valid)
    (hsize : s.call.size ≠ 0) (hgrants : s.exactEnd ≤ limit) :
    s.Placed base limit before ∧ PoolAt base limit (regions (before ++ [s])) s.result.core := by
  have hresult := step_granted hpool h hsize (by omega)
  have haddr := (bumped_exact hpool h.align hgrants).1
  have hnext := bumped_packed hpool h.align hsize hgrants
  have hbounds := exactStart_bounds hpool h.align
  have hout : s.result.physOut.toNat = exactStart s.core s.call.align := by
    rw [hresult]
    exact haddr
  have hret : s.result.ret = 0 := by rw [hresult]
  refine ⟨⟨hret, fun hzero => ?_, ?_, ?_, ?_⟩, ?_⟩
  · have hterm : alignTerm s.call.align = s.call.align := if_pos hzero
    rw [hout, exactStart, hterm]
    exact dvd_roundUp _ _
  · omega
  · rw [hout]
    exact hgrants
  · exact hpool.packed.disjoint_of_next_le (by rw [hout]; exact hbounds.1)
  · have hregion : s.region = some ⟨exactStart s.core s.call.align, s.call.size.toNat⟩ := by
      rw [MallocStep.region, if_pos ⟨hsize, hret⟩, hout]
    have hregions : regions (before ++ [s]) =
        regions before ++ [⟨exactStart s.core s.call.align, s.call.size.toNat⟩] := by
      rw [regions, List.filterMap_append, List.filterMap_cons, hregion]
      rfl
    rw [hregions, hresult]
    exact hnext

/-- A region whose exact place is not below 2 ^ 32 is returned below 0 mod 2 ^ 32:
it is not in the pool, or on top of the first region. -/
theorem not_placed (hpool : PoolAt base limit (regions before) s.core) (h : s.Valid)
    (hsize : s.call.size ≠ 0) (hend : 2 ^ 32 ≤ s.exactEnd) : ¬ s.Placed base limit before := by
  intro hplaced
  have hlimit := hpool.limit_lt
  have hpos := size_pos hsize
  have hret := hplaced.ret
  have hin := hplaced.le_limit
  have hgrants : s.exactEnd % 2 ^ 32 ≤ limit := by
    by_contra hrefuses
    have hnegative := (step_refused hpool h hsize (Nat.lt_of_not_le hrefuses)).1
    omega
  have hresult := step_granted hpool h hsize hgrants
  have hout : s.result.physOut.toNat = exactStart s.core s.call.align % 2 ^ 32 := by
    rw [hresult]
    exact alignedAddr_toNat s.core h.align
  by_cases hsmall : exactStart s.core s.call.align < 2 ^ 32
  · rw [Nat.mod_eq_of_lt hsmall] at hout
    have hend : 2 ^ 32 ≤ exactStart s.core s.call.align + s.call.size.toNat := hend
    omega
  · -- the alignment carries the region to 2 ^ 32, which comes out as address 0
    have hnext := hpool.packed.next_le
    obtain ⟨hwrapped, hcursor⟩ := exactStart_wrapped hpool h.align (by omega)
      (Nat.le_of_not_lt hsmall)
    have hzero : s.result.physOut.toNat = 0 := by
      rw [hout, hwrapped, Nat.mod_self]
    have hbase : base = 0 := Nat.le_zero.mp (hzero ▸ hplaced.base_le)
    obtain ⟨r, hr, hstart, hrsize⟩ := hpool.packed.first hbase hcursor
    have hapart := hplaced.apart r hr
    unfold Region.Disjoint at hapart
    rw [hzero, hstart] at hapart
    dsimp only at hapart
    omega

theorem sound_iff (hpool : PoolAt base limit (regions before) s.core) (h : s.Valid) :
    Sound base limit before s ↔ Representable limit s := by
  unfold Sound Representable
  by_cases hsize : s.call.size = 0
  · rw [if_pos hsize, h.result, ispMalloc, if_pos hsize]
    exact iff_of_true ⟨rfl, rfl⟩ (.inl hsize)
  · rw [if_neg hsize]
    by_cases hrefuses : limit < s.exactEnd % 2 ^ 32
    · exact iff_of_true (.inl (step_refused hpool h hsize hrefuses)) (.inr (.inr hrefuses))
    · have hgrants := Nat.le_of_not_lt hrefuses
      have hret : s.result.ret = 0 := by rw [step_granted hpool h hsize hgrants]
      by_cases hend : s.exactEnd < 2 ^ 32
      · rw [Nat.mod_eq_of_lt hend] at hgrants
        exact iff_of_true (.inr (step_packed hpool h hsize hgrants).1) (.inr (.inl hend))
      · refine iff_of_false ?_ ?_
        · rintro (hrefused | hplaced)
          · have hnegative := hrefused.1
            omega
          · exact not_placed hpool h hsize (Nat.le_of_not_lt hend) hplaced
        · rintro (hzero | hsmall | hlarge)
          · exact hsize hzero
          · exact hend hsmall
          · exact hrefuses hlarge

theorem step_pool (hpool : PoolAt base limit (regions before) s.core) (h : s.Valid)
    (hrepresentable : Representable limit s) :
      PoolAt base limit (regions (before ++ [s])) s.result.core := by
  have hkept : s.result.core = s.core → s.region = none →
      PoolAt base limit (regions (before ++ [s])) s.result.core := by
    intro hcore hregion
    have hregions : regions (before ++ [s]) = regions before := by
      rw [regions, List.filterMap_append, List.filterMap_cons, hregion]
      exact List.append_nil _
    rw [hcore]
    exact ⟨hpool.base_eq, hpool.limit_eq, hpool.limit_lt, hregions ▸ hpool.packed⟩
  by_cases hsize : s.call.size = 0
  · refine hkept ?_ (if_neg fun hregion => hregion.1 hsize)
    rw [h.result, ispMalloc, if_pos hsize]
  · by_cases hrefuses : limit < s.exactEnd % 2 ^ 32
    · obtain ⟨hret, -, hcore⟩ := step_refused hpool h hsize hrefuses
      exact hkept hcore (if_neg fun hregion => by omega)
    · rcases hrepresentable with hzero | hend | hlarge
      · exact absurd hzero hsize
      · have hgrants := Nat.le_of_not_lt hrefuses
        rw [Nat.mod_eq_of_lt hend] at hgrants
        exact (step_packed hpool h hsize hgrants).2
      · exact absurd hlarge hrefuses

end Step

theorem mallocs_chain (core : IspCore) {calls : List Call}
    (halign : ∀ c ∈ calls, ValidAlign c.align) :
    ∃ core', Chain MallocStep.core (fun s => s.result.core) MallocStep.Valid core
      (mallocs core calls) core' := by
  induction calls generalizing core with
  | nil => exact ⟨core, .nil⟩
  | cons c calls ih =>
      obtain ⟨hc, hcalls⟩ := List.forall_mem_cons.mp halign
      obtain ⟨core', hrest⟩ := ih (ispMalloc core c.size c.align c.physOut).core hcalls
      have hfirst : Chain MallocStep.core (fun s => s.result.core) MallocStep.Valid core
          [⟨core, c, ispMalloc core c.size c.align c.physOut⟩] _ := Chain.single ⟨rfl, hc⟩ rfl
      exact ⟨core', hfirst.append hrest⟩

/-- While the ends are representable the pool stays packed. -/
theorem chain_pool {base limit : Nat} {core core' : IspCore} {l : List MallocStep}
    (h : Chain MallocStep.core (fun s => s.result.core) MallocStep.Valid core l core')
    (hpool : PoolAt base limit (regions []) core) (hall : ∀ s ∈ l, Representable limit s) :
    PoolAt base limit (regions l) core' := by
  have hchain := h.strengthen fun s hs hvalid =>
    (⟨hvalid, hall s hs⟩ : s.Valid ∧ Representable limit s)
  exact hchain.induction (P := fun l core => PoolAt base limit (regions l) core) hpool
    fun l s hl hs => step_pool hl hs.1 hs.2

theorem mallocs_at (core : IspCore) {calls : List Call}
    (halign : ∀ c ∈ calls, ValidAlign c.align) {n : Nat} (hn : n < (mallocs core calls).length) :
    Chain MallocStep.core (fun s => s.result.core) MallocStep.Valid core
      ((mallocs core calls).take n) (mallocs core calls)[n].core ∧
      (mallocs core calls)[n].Valid := by
  obtain ⟨core', hchain⟩ := mallocs_chain core halign
  obtain ⟨_, hprefix⟩ := hchain.of_isPrefix (List.take_prefix (n + 1) _)
  rw [List.take_succ_eq_append_getElem hn] at hprefix
  obtain ⟨hbefore, hvalid, -⟩ := hprefix.of_snoc
  exact ⟨hbefore, hvalid⟩

/-- From a fresh pool every call does what it owes its caller just when the end of
every region asked for is below 2 ^ 32, or is refused all the same. -/
theorem isp_malloc_sound_iff (core : IspCore) (calls : List Call) (hfresh : core.poolCursor = 0)
    (hpool : core.poolPhysBase.toNat + core.poolTotalSize.toNat < 2 ^ 32)
    (halign : ∀ c ∈ calls, ValidAlign c.align) :
    (∀ (n : Nat) (hn : n < (mallocs core calls).length),
      Sound core.poolPhysBase.toNat (core.poolPhysBase.toNat + core.poolTotalSize.toNat)
        ((mallocs core calls).take n) (mallocs core calls)[n]) ↔
      ∀ s ∈ mallocs core calls,
        Representable (core.poolPhysBase.toNat + core.poolTotalSize.toNat) s := by
  have hstart := PoolAt.fresh hfresh hpool
  have hstep : ∀ (n : Nat) (hn : n < (mallocs core calls).length),
      (∀ s ∈ (mallocs core calls).take n,
        Representable (core.poolPhysBase.toNat + core.poolTotalSize.toNat) s) →
      (Sound core.poolPhysBase.toNat (core.poolPhysBase.toNat + core.poolTotalSize.toNat)
        ((mallocs core calls).take n) (mallocs core calls)[n] ↔
        Representable (core.poolPhysBase.toNat + core.poolTotalSize.toNat)
          (mallocs core calls)[n]) := by
    intro n hn hbefore
    obtain ⟨hchain, hvalid⟩ := mallocs_at core halign hn
    exact sound_iff (chain_pool hchain hstart hbefore) hvalid
  constructor
  · intro hsound
    -- a call is representable when the calls before it are, so all are
    have hall : ∀ (n : Nat) (hn : n < (mallocs core calls).length),
        Representable (core.poolPhysBase.toNat + core.poolTotalSize.toNat)
          (mallocs core calls)[n] := by
      intro n
      induction n using Nat.strongRecOn with
      | ind n ih =>
          intro hn
          refine (hstep n hn fun s hs => ?_).mp (hsound n hn)
          obtain ⟨j, hj, rfl⟩ := List.mem_take_iff_getElem.mp hs
          exact ih j (by omega) (by omega)
    intro s hs
    obtain ⟨n, hn, rfl⟩ := List.mem_iff_getElem.mp hs
    exact hall n hn
  · intro hall n hn
    exact (hstep n hn fun s hs => hall s (List.mem_of_mem_take hs)).mpr
      (hall _ (List.getElem_mem hn))

/-- A small pool and a call whose end does not fit in 32 bits: the region returned
is larger than the pool. -/
theorem huge_size_granted :
    ¬ ∀ (core : IspCore) (calls : List Call), core.poolCursor = 0 →
      core.poolPhysBase.toNat + core.poolTotalSize.toNat < 2 ^ 32 →
      (∀ c ∈ calls, ValidAlign c.align) →
      ∀ (n : Nat) (hn : n < (mallocs core calls).length),
        Sound core.poolPhysBase.toNat (core.poolPhysBase.toNat + core.poolTotalSize.toNat)
          ((mallocs core calls).take n) (mallocs core calls)[n] := by
  intro h
  have hsound := h { zeroCore with poolPhysBase := 0x1000, poolTotalSize := 0x1000 }
    [⟨0xfffff800, 0x80, 0⟩] rfl (by decide)
    (List.forall_mem_singleton.mpr (.inr ⟨7, rfl⟩)) 0 (by decide)
  unfold Sound at hsound
  rw [if_neg (by decide)] at hsound
  rcases hsound with hrefused | hplaced
  · exact absurd hrefused.1 (by decide)
  · exact absurd hplaced.le_limit (by decide)

/-- The second of two calls that fit. -/
theorem isp_malloc_sound_iff_sample :
    Sound 0x1001 0x2001
      ((mallocs { zeroCore with poolPhysBase := 0x1001, poolTotalSize := 0x1000 }
        [⟨0x10, 0x80, 0⟩, ⟨0x20, 0, 0⟩]).take 1)
      (mallocs { zeroCore with poolPhysBase := 0x1001, poolTotalSize := 0x1000 }
        [⟨0x10, 0x80, 0⟩, ⟨0x20, 0, 0⟩])[1] := by
  refine (isp_malloc_sound_iff { zeroCore with poolPhysBase := 0x1001, poolTotalSize := 0x1000 }
    [⟨0x10, 0x80, 0⟩, ⟨0x20, 0, 0⟩] rfl (by decide) ?_).mpr ?_ 1 (by decide)
  · exact List.forall_mem_cons.mpr ⟨.inr ⟨7, rfl⟩, List.forall_mem_singleton.mpr (.inl rfl)⟩
  · exact List.forall_mem_cons.mpr
      ⟨.inr (.inl (by decide)), List.forall_mem_singleton.mpr (.inr (.inl (by decide)))⟩

end Isp
end FH8852
