import FH8852.Isp.Malloc

/-!
# The ISP pool is large enough

The total that `isp_core_get_buf_size` computes covers the thirteen allocations
of `isp_core_alloc_buf_addr`, whatever the resolution and the base of the pool.
-/

namespace FH8852
namespace Isp

open Bump

/-! ## The sizes, computed exactly -/

def exactMainRow (width : Nat) : Nat := roundUp 8 ((width * 10 + 7) / 8)

def exactSubRow (width : Nat) : Nat := roundUp 8 ((width / 4 * 10 + 7) / 8)

def exactFrame (width height : Nat) : Nat := height * exactMainRow width

def exactCoef (width height : Nat) : Nat := height / 4 * exactSubRow width

def exactTotal (width height : Nat) : Nat :=
  roundUp 128 (exactFrame width height) + 0x20000 + roundUp 128 (exactCoef width height) * 2 +
    0x9400

/-- The results of the additions and multiplications of `isp_core_get_buf_size`,
computed exactly. -/
def bufSizeResults (width height : Nat) : List Nat :=
  [width * 10, width * 10 + 7, (width * 10 + 7) / 8 + 7,
    width / 4 * 10, width / 4 * 10 + 7, (width / 4 * 10 + 7) / 8 + 7,
    exactFrame width height, exactCoef width height,
    exactFrame width height + 0x7f, exactCoef width height + 0x7f,
    roundUp 128 (exactFrame width height) + 0x20000,
    roundUp 128 (exactCoef width height) * 2,
    roundUp 128 (exactFrame width height) + 0x20000 + roundUp 128 (exactCoef width height) * 2,
    exactTotal width height]

/-- No operation of `isp_core_get_buf_size` wraps. -/
def NoWrap (width height : UInt32) : Prop :=
  ∀ v ∈ bufSizeResults width.toNat height.toNat, v < 2 ^ 32

/-- Adding one less than a power of two and clearing the low bits rounds up. -/
theorem toNat_mask {v c m : UInt32} {k : Nat} (hk : k ≤ 31) (hc : c.toNat = 2 ^ k - 1)
    (hm : m.toNat = 2 ^ 32 - 2 ^ k) (hv : v.toNat + (2 ^ k - 1) < 2 ^ 32) :
    ((v + c) &&& m).toNat = roundUp (2 ^ k) v.toNat := by
  rw [UInt32.toNat_and, UInt32.toNat_add, hc, hm, Nat.mod_eq_of_lt hv, and_mask hk hv]
  rfl

theorem roundUp8_toNat {v : UInt32} (hv : v.toNat + 7 < 2 ^ 32) :
    (roundUp8 v).toNat = roundUp 8 v.toNat :=
  @toNat_mask v 7 0xfffffff8 3 (by omega) rfl rfl hv

theorem roundUp128_toNat {v : UInt32} (hv : v.toNat + 0x7f < 2 ^ 32) :
    (roundUp128 v).toNat = roundUp 128 v.toNat :=
  @toNat_mask v 0x7f 0xffffff80 7 (by omega) rfl rfl hv

theorem row_toNat {v : UInt32} (hv : v.toNat * 10 + 7 < 2 ^ 32) :
    ((v * 10 + 7) >>> 3).toNat = (v.toNat * 10 + 7) / 8 := by
  have h10 : (10 : UInt32).toNat = 10 := rfl
  have h7 : (7 : UInt32).toNat = 7 := rfl
  have hsum : (v * 10 + 7).toNat = v.toNat * 10 + 7 := by
    rw [UInt32.toNat_add, UInt32.toNat_mul, h10, h7]
    omega
  rw [UInt32.toNat_shiftRight, hsum]
  exact Nat.shiftRight_eq_div_pow _ 3

theorem quarter_toNat (v : UInt32) : (v >>> 2).toNat = v.toNat / 4 := by
  rw [UInt32.toNat_shiftRight]
  exact Nat.shiftRight_eq_div_pow _ 2

section Sizes

variable {width height : UInt32} (h : NoWrap width height)

include h

theorem mainRow_toNat : (mainRow width).toNat = exactMainRow width.toNat := by
  have hadd := h (width.toNat * 10 + 7) (by simp [bufSizeResults])
  have hround := h ((width.toNat * 10 + 7) / 8 + 7) (by simp [bufSizeResults])
  have hrow := row_toNat hadd
  rw [mainRow, roundUp8_toNat (by rw [hrow]; exact hround), hrow]
  rfl

theorem subRow_toNat : (subRow width).toNat = exactSubRow width.toNat := by
  have hadd := h (width.toNat / 4 * 10 + 7) (by simp [bufSizeResults])
  have hround := h ((width.toNat / 4 * 10 + 7) / 8 + 7) (by simp [bufSizeResults])
  have hquarter := quarter_toNat width
  rw [← hquarter] at hadd hround
  have hrow := row_toNat hadd
  rw [subRow, roundUp8_toNat (by rw [hrow]; exact hround), hrow, hquarter]
  rfl

theorem frame_toNat :
    (ispCoreGetBufSize width height 0).toNat = exactFrame width.toNat height.toNat := by
  have hframe := h (exactFrame width.toNat height.toNat) (by simp [bufSizeResults])
  show (height * mainRow width).toNat = _
  rw [UInt32.toNat_mul, mainRow_toNat h]
  exact Nat.mod_eq_of_lt hframe

theorem coef_toNat :
    (ispCoreGetBufSize width height 1).toNat = exactCoef width.toNat height.toNat := by
  have hcoef := h (exactCoef width.toNat height.toNat) (by simp [bufSizeResults])
  show ((height >>> 2) * subRow width).toNat = _
  rw [UInt32.toNat_mul, subRow_toNat h, quarter_toNat]
  exact Nat.mod_eq_of_lt hcoef

theorem total_toNat :
    (ispCoreGetBufSize width height 0x15).toNat = exactTotal width.toNat height.toNat := by
  have hframe := h (exactFrame width.toNat height.toNat + 0x7f) (by simp [bufSizeResults])
  have hcoef := h (exactCoef width.toNat height.toNat + 0x7f) (by simp [bufSizeResults])
  have htotal := h (exactTotal width.toNat height.toNat) (by simp [bufSizeResults])
  rw [← frame_toNat h] at hframe
  rw [← coef_toNat h] at hcoef
  have hstats : ((roundUp128 ispfStatSize + roundUp128 isppStatSize + 0xffff) &&& 0xffff0000 :
      UInt32) = 0x20000 := by decide
  show (roundUp128 (ispCoreGetBufSize width height 0) +
    (((roundUp128 ispfStatSize + roundUp128 isppStatSize + 0xffff) &&& 0xffff0000 : UInt32)) +
    roundUp128 (ispCoreGetBufSize width height 1) * 2 + 0x9400).toNat = _
  have h2 : (2 : UInt32).toNat = 2 := rfl
  have hmid : (0x20000 : UInt32).toNat = 0x20000 := rfl
  have hlast : (0x9400 : UInt32).toNat = 0x9400 := rfl
  rw [hstats, UInt32.toNat_add, UInt32.toNat_add, UInt32.toNat_add, UInt32.toNat_mul,
    roundUp128_toNat hframe, roundUp128_toNat hcoef, frame_toNat h, coef_toNat h, h2, hmid, hlast]
  unfold exactTotal at htotal ⊢
  omega

end Sizes

/-! ## The thirteen allocations -/

/-- The regions of the buffers that are not empty. -/
def bufferRegions (core : IspCore) (reqs : List (Buffer × UInt32)) : List Region :=
  (reqs.filter fun p => p.2 ≠ 0).map fun p => ⟨(core.addr p.1).toNat, p.2.toNat⟩

/-- The requests `done` have been served from the pool, and `rest` have not. -/
structure Served (base limit : Nat) (core : IspCore) (done rest : List (Buffer × UInt32)) :
    Prop where
  pool : PoolAt base limit (bufferRegions core done) core
  size : ∀ p ∈ done, core.size p.1 = p.2
  aligned : ∀ p ∈ done, 128 ∣ (core.addr p.1).toNat
  empty : ∀ p ∈ done, p.2 = 0 → core.addr p.1 = 0
  untouched : ∀ p ∈ rest, core.addr p.1 = 0
  distinct : ((done ++ rest).map Prod.fst).Nodup

theorem bufferRegions_congr {core core' : IspCore} {reqs : List (Buffer × UInt32)}
    (h : ∀ p ∈ reqs, core'.addr p.1 = core.addr p.1) :
    bufferRegions core' reqs = bufferRegions core reqs := by
  refine List.map_congr_left fun p hp => ?_
  rw [h p (List.mem_of_mem_filter hp)]

/-- A served request adds its region, unless it is empty. -/
theorem bufferRegions_snoc (core : IspCore) (reqs : List (Buffer × UInt32)) (b : Buffer)
    (size : UInt32) :
    bufferRegions core (reqs ++ [(b, size)]) =
      bufferRegions core reqs ++
        if size = 0 then [] else [⟨(core.addr b).toNat, size.toNat⟩] := by
  unfold bufferRegions
  rw [List.filter_append, List.map_append]
  by_cases hsize : size = 0
  · rw [if_pos hsize]
    simp [hsize]
  · rw [if_neg hsize]
    simp [hsize]

theorem valid_align_128 : ValidAlign 0x80 := .inr ⟨7, rfl⟩

section Alloc

variable {base limit : Nat} {core : IspCore} {done rest : List (Buffer × UInt32)} {b : Buffer}
  {size : UInt32}

/-- The other buffers served or to be served are other buffers. -/
theorem Served.ne (h : Served base limit core done ((b, size) :: rest)) :
    (∀ p ∈ done, p.1 ≠ b) ∧ ∀ p ∈ rest, p.1 ≠ b := by
  have hnodup := h.distinct
  rw [List.map_append, List.map_cons, List.nodup_append, List.nodup_cons] at hnodup
  obtain ⟨-, ⟨hrest, -⟩, hdone⟩ := hnodup
  refine ⟨fun p hp => hdone p.1 (List.mem_map_of_mem hp) b List.mem_cons_self, fun p hp hpb => ?_⟩
  exact hrest (List.mem_map.mpr ⟨p, hp, hpb⟩)

/-- Serving a request with an address of its own leaves the others as they are. -/
theorem Served.step (h : Served base limit core done ((b, size) :: rest)) {core' : IspCore}
    {out : UInt32}
    (haddr : ∀ b', core'.addr b' = if b' = b then out else core.addr b')
    (hsize : ∀ b', core'.size b' = if b' = b then size else core.size b')
    (hpool : PoolAt base limit (bufferRegions core' (done ++ [(b, size)])) core')
    (haligned : 128 ∣ out.toNat) (hempty : size = 0 → out = 0) :
    Served base limit core' (done ++ [(b, size)]) rest where
  pool := hpool
  size := by
    refine List.forall_mem_append.mpr ⟨fun p hp => ?_, List.forall_mem_singleton.mpr ?_⟩
    · rw [hsize, if_neg (h.ne.1 p hp)]
      exact h.size p hp
    · exact (hsize b).trans (if_pos rfl)
  aligned := by
    refine List.forall_mem_append.mpr ⟨fun p hp => ?_, List.forall_mem_singleton.mpr ?_⟩
    · rw [haddr, if_neg (h.ne.1 p hp)]
      exact h.aligned p hp
    · rw [haddr b, if_pos rfl]
      exact haligned
  empty := by
    refine List.forall_mem_append.mpr ⟨fun p hp => ?_, List.forall_mem_singleton.mpr ?_⟩
    · rw [haddr, if_neg (h.ne.1 p hp)]
      exact h.empty p hp
    · rw [haddr b, if_pos rfl]
      exact hempty
  untouched := by
    intro p hp
    rw [haddr, if_neg (h.ne.2 p hp)]
    exact h.untouched p (List.mem_cons_of_mem _ hp)
  distinct := by
    rw [List.append_assoc]
    exact h.distinct

theorem allocBuffer_empty (core : IspCore) (b : Buffer) :
    allocBuffer core b 0 = (true, { core with
      addr := fun b' => if b' = b then core.addr b else core.addr b'
      size := fun b' => if b' = b then 0 else core.size b' }) := by
  unfold allocBuffer ispMalloc
  rfl

theorem allocBuffer_served (h : Served base limit core done ((b, size) :: rest))
    (hfits : Fits 128 limit (base + core.poolCursor.toNat)
      (((b, size) :: rest).map fun p => p.2.toNat)) :
    (allocBuffer core b size).1 = true ∧
      Served base limit (allocBuffer core b size).2 (done ++ [(b, size)]) rest ∧
      Fits 128 limit (base + (allocBuffer core b size).2.poolCursor.toNat)
        (rest.map fun p => p.2.toNat) := by
  have hzero := h.untouched (b, size) List.mem_cons_self
  rw [List.map_cons] at hfits
  by_cases hsize : size = 0
  · subst hsize
    rw [allocBuffer_empty]
    refine ⟨rfl, h.step (fun _ => rfl) (fun _ => rfl) ?_ ?_ fun _ => hzero, hfits.skip⟩
    · have hregions : bufferRegions { core with
          addr := fun b' => if b' = b then core.addr b else core.addr b'
          size := fun b' => if b' = b then 0 else core.size b' } (done ++ [(b, 0)]) =
          bufferRegions core done := by
        rw [bufferRegions_snoc, if_pos rfl, List.append_nil]
        refine bufferRegions_congr fun p hp => ?_
        exact if_neg (h.ne.1 p hp)
      rw [hregions]
      exact ⟨h.pool.base_eq, h.pool.limit_eq, h.pool.limit_lt, h.pool.packed⟩
    · rw [hzero]
      exact Nat.dvd_zero 128
  · have hstart : exactStart core 0x80 = roundUp 128 (base + core.poolCursor.toNat) := by
      rw [exactStart, h.pool.base_eq]
      rfl
    have hend : exactEnd core size 0x80 ≤ limit := by
      rw [exactEnd, hstart]
      exact hfits.head (by omega)
    obtain ⟨haddr, hcursor⟩ := bumped_exact h.pool valid_align_128 hend
    have hlimit := h.pool.limit_lt
    have hgranted := ispMalloc_granted h.pool valid_align_128 hsize
      (by rw [Nat.mod_eq_of_lt (by omega)]; exact hend) (core.addr b)
    have halloc : allocBuffer core b size = (true, { bumped core size 0x80 with
        addr := fun b' => if b' = b then alignedAddr core 0x80 else core.addr b'
        size := fun b' => if b' = b then size else core.size b' }) := by
      unfold allocBuffer
      rw [hgranted]
      rfl
    rw [halloc]
    refine ⟨rfl, h.step (fun _ => rfl) (fun _ => rfl) ?_ ?_ fun hempty => absurd hempty hsize, ?_⟩
    · have hpacked := bumped_packed h.pool valid_align_128 hsize hend
      have hregions : bufferRegions { bumped core size 0x80 with
          addr := fun b' => if b' = b then alignedAddr core 0x80 else core.addr b'
          size := fun b' => if b' = b then size else core.size b' } (done ++ [(b, size)]) =
          bufferRegions core done ++ [⟨exactStart core 0x80, size.toNat⟩] := by
        rw [bufferRegions_snoc, if_neg hsize, ← haddr]
        dsimp only
        rw [if_pos rfl]
        congr 1
        refine bufferRegions_congr fun p hp => ?_
        exact if_neg (h.ne.1 p hp)
      rw [hregions]
      exact ⟨hpacked.base_eq, hpacked.limit_eq, hpacked.limit_lt, hpacked.packed⟩
    · rw [haddr, hstart]
      exact dvd_roundUp _ _
    · show Fits 128 limit (base + (bumped core size 0x80).poolCursor.toNat) _
      rw [hcursor, exactEnd, hstart]
      exact hfits.tail (by omega)

theorem allocBuffers_served (h : Served base limit core done rest)
    (hfits : Fits 128 limit (base + core.poolCursor.toNat) (rest.map fun p => p.2.toNat)) :
    (allocBuffers core rest).1 = true ∧
      Served base limit (allocBuffers core rest).2 (done ++ rest) [] := by
  induction rest generalizing core done with
  | nil =>
      rw [List.append_nil]
      exact ⟨rfl, h⟩
  | cons p rest ih =>
      obtain ⟨b, size⟩ := p
      obtain ⟨hok, hserved, hfits⟩ := allocBuffer_served h hfits
      have hrest := ih hserved hfits
      rw [List.append_assoc] at hrest
      unfold allocBuffers
      rw [if_pos hok]
      exact hrest

end Alloc

/-! ## The whole pool -/

theorem mem_requests (bufsz : Nat → UInt32) (b : Buffer) : ∃ size, (b, size) ∈ requests bufsz := by
  cases b <;> exact ⟨_, by simp [requests]; rfl⟩

theorem requests_distinct (bufsz : Nat → UInt32) : ((requests bufsz).map Prod.fst).Nodup := by
  show [Buffer.ispMemFront, .gosd, .isppStat, .ispfStat, .ispbStat, .nr3dStat, .nr3dFrame,
    .nr3dCoef, .nr3dNr2dCoef, .memAfterNr3d, .drcStat0, .memAfterDrc, .ispMemEnd].Nodup
  decide

/-- There are thirteen requests, one for each buffer, with these sizes. -/
theorem requests_exact {width height : UInt32} (h : NoWrap width height) :
    (requests (ispCoreGetBufSize width height)).map (fun p => (p.1, p.2.toNat)) =
      [(.ispMemFront, 0), (.gosd, 0x200), (.isppStat, 0x12258), (.ispfStat, 12), (.ispbStat, 0),
        (.nr3dStat, 0x5000), (.nr3dFrame, exactFrame width.toNat height.toNat),
        (.nr3dCoef, exactCoef width.toNat height.toNat),
        (.nr3dNr2dCoef, exactCoef width.toNat height.toNat), (.memAfterNr3d, 0),
        (.drcStat0, 0x41a0), (.memAfterDrc, 0), (.ispMemEnd, 0)] := by
  have hcoef : ispCoreGetBufSize width height 2 = ispCoreGetBufSize width height 1 := rfl
  simp only [requests, List.map_cons, List.map_nil, hcoef, frame_toNat h, coef_toNat h]
  rfl

/-- The total leaves room for the rounded sizes and for the rounding of the base. -/
theorem requests_fit {width height : UInt32} (h : NoWrap width height) (base : Nat) :
    Fits 128 (base + (ispCoreGetBufSize width height 0x15).toNat) base
      ((requests (ispCoreGetBufSize width height)).map fun p => p.2.toNat) := by
  have hbase := (@roundUp_bounds 128 (by omega) base).2
  have hsizes : (requests (ispCoreGetBufSize width height)).map (fun p => p.2.toNat) =
      ((requests (ispCoreGetBufSize width height)).map fun p => (p.1, p.2.toNat)).map Prod.snd := by
    rw [List.map_map]
    rfl
  rw [hsizes, requests_exact h, total_toNat h, Fits]
  simp only [List.map_cons, List.map_nil, List.sum_cons, List.sum_nil, roundUp_zero]
  have hfixed : roundUp 128 0x200 + roundUp 128 0x12258 + roundUp 128 12 + roundUp 128 0x5000 +
      roundUp 128 0x41a0 = 0x1b700 := by decide
  unfold exactTotal
  omega

/-- The buffer as a stretch of memory. -/
def bufferRegion (core : IspCore) (b : Buffer) : Region :=
  ⟨(core.addr b).toNat, (core.size b).toNat⟩

/-- The offsets in the `SET_DMA_ADDRS` block, with the buffers they are for. -/
def dmaBuffers : List (Nat × Buffer) :=
  [(24, .nr3dFrame), (28, .nr3dCoef), (32, .nr3dNr2dCoef), (36, .nr3dStat), (40, .drcStat0),
    (60, .gosd), (72, .ispMemFront), (80, .memAfterNr3d), (84, .memAfterDrc)]

theorem dmaAddrs_buffers (core : IspCore) :
    ∀ p ∈ dmaBuffers, dmaAddrs core p.1 = core.addr p.2 := by
  simp [dmaBuffers, dmaAddrs]

/-- Every buffer has been allocated at the size asked for, apart from the others and
in the pool, and the driver has been told where it is. -/
structure PoolSound (base total : Nat) (reqs : List (Buffer × UInt32)) (r : AllocOutcome) :
    Prop where
  ret : r.ret = 0
  size : ∀ p ∈ reqs, r.core.size p.1 = p.2
  aligned : ∀ b, 128 ∣ (r.core.addr b).toNat
  inside : ∀ b, r.core.size b ≠ 0 → base ≤ (r.core.addr b).toNat ∧
    (r.core.addr b).toNat + (r.core.size b).toNat ≤ base + total
  apart : ∀ b b', b ≠ b' → r.core.size b ≠ 0 → r.core.size b' ≠ 0 →
    (bufferRegion r.core b).Disjoint (bufferRegion r.core b')
  sent : ∃ block, r.sent = some block ∧ ∀ p ∈ dmaBuffers,
    block p.1 = if r.core.size p.2 = 0 then 0 else r.core.addr p.2

/-- The core before the first allocation. -/
def mappedCore (base total : UInt32) : IspCore :=
  { zeroCore with poolPhysBase := base, poolTotalSize := total }

theorem mappedCore_eq (base total : UInt32) :
    mappedCore base total = ⟨base, total, 0, zeroCore.addr, zeroCore.size⟩ := rfl

theorem mappedCore_next (base total : UInt32) :
    base.toNat + (mappedCore base total).poolCursor.toNat = base.toNat := Nat.add_zero _

theorem served_none {base total : UInt32} (hpool : base.toNat + total.toNat < 2 ^ 32)
    {reqs : List (Buffer × UInt32)} (hdistinct : (reqs.map Prod.fst).Nodup) :
    Served base.toNat (base.toNat + total.toNat) (mappedCore base total) [] reqs where
  pool := @PoolAt.fresh (mappedCore base total) rfl hpool
  size := nofun
  aligned := nofun
  empty := nofun
  untouched _ _ := rfl
  distinct := hdistinct

section Sound

variable {base limit : Nat} {core : IspCore} {reqs : List (Buffer × UInt32)}

/-- The regions of the buffers served are those of their recorded sizes. -/
theorem Served.region_mem (h : Served base limit core reqs []) {p : Buffer × UInt32}
    (hp : p ∈ reqs) (hsize : core.size p.1 ≠ 0) :
    p ∈ reqs.filter (fun p => p.2 ≠ 0) ∧
      (⟨(core.addr p.1).toNat, p.2.toNat⟩ : Region) = bufferRegion core p.1 := by
  rw [h.size p hp] at hsize
  refine ⟨List.mem_filter.mpr ⟨hp, decide_eq_true hsize⟩, ?_⟩
  rw [bufferRegion, h.size p hp]

theorem Served.inside (h : Served base limit core reqs []) {p : Buffer × UInt32} (hp : p ∈ reqs)
    (hsize : core.size p.1 ≠ 0) :
    base ≤ (core.addr p.1).toNat ∧ (core.addr p.1).toNat + (core.size p.1).toNat ≤ limit := by
  obtain ⟨hmem, hregion⟩ := h.region_mem hp hsize
  have hin := h.pool.packed.within _ (List.mem_map_of_mem hmem)
  have hnext := h.pool.packed.next_le
  rw [hregion] at hin
  exact ⟨hin.1, hin.2.trans hnext⟩

theorem Served.apart (h : Served base limit core reqs []) {p p' : Buffer × UInt32} (hp : p ∈ reqs)
    (hp' : p' ∈ reqs) (hne : p.1 ≠ p'.1) (hsize : core.size p.1 ≠ 0) (hsize' : core.size p'.1 ≠ 0) :
    (bufferRegion core p.1).Disjoint (bufferRegion core p'.1) := by
  obtain ⟨hmem, hregion⟩ := h.region_mem hp hsize
  obtain ⟨hmem', hregion'⟩ := h.region_mem hp' hsize'
  have hpairwise : (reqs.filter fun p => p.2 ≠ 0).Pairwise fun p p' =>
      Region.Disjoint ⟨(core.addr p.1).toNat, p.2.toNat⟩ ⟨(core.addr p'.1).toNat, p'.2.toNat⟩ :=
    (List.pairwise_map.mp h.pool.packed.ordered).imp fun hle => .inl hle
  have hsymm : Std.Symm fun p p' : Buffer × UInt32 =>
      Region.Disjoint ⟨(core.addr p.1).toNat, p.2.toNat⟩ ⟨(core.addr p'.1).toNat, p'.2.toNat⟩ :=
    ⟨fun _ _ => Region.Disjoint.symm⟩
  have hapart := hpairwise.forall hmem hmem' fun hpp => hne (congrArg Prod.fst hpp)
  rw [hregion, hregion'] at hapart
  exact hapart

theorem Served.sound {total : Nat} {bufsz : Nat → UInt32}
    (h : Served base (base + total) core (requests bufsz) []) :
    PoolSound base total (requests bufsz) ⟨0, core, some (dmaAddrs core)⟩ where
  ret := rfl
  size := h.size
  aligned b := by
    obtain ⟨size, hb⟩ := mem_requests bufsz b
    exact h.aligned _ hb
  inside b hsize := by
    obtain ⟨size, hb⟩ := mem_requests bufsz b
    exact h.inside hb hsize
  apart b b' hne hsize hsize' := by
    obtain ⟨size, hb⟩ := mem_requests bufsz b
    obtain ⟨size', hb'⟩ := mem_requests bufsz b'
    exact h.apart hb hb' hne hsize hsize'
  sent := by
    refine ⟨_, rfl, fun p hp => ?_⟩
    rw [dmaAddrs_buffers core p hp]
    by_cases hsize : core.size p.2 = 0
    · obtain ⟨size, hb⟩ := mem_requests bufsz p.2
      rw [if_pos hsize]
      exact h.empty _ hb ((h.size _ hb).symm.trans hsize)
    · exact (if_neg hsize).symm

end Sound

/-- Once every allocation is granted, only the driver can refuse. -/
theorem ispCoreAllocBufAddr_granted {width height base : UInt32} {io : IoctlIo}
    (hbase : io.vmmAlloc ⟨ispCoreGetBufSize width height 0x15, 0x10000, "isp"⟩ = some base)
    (hio : io.setStatInfo = true ∧ io.setDmaAddrs = true ∧ io.getStatInfo = true)
    {core : IspCore}
    (hcore : allocBuffers (mappedCore base (ispCoreGetBufSize width height 0x15))
      (requests (ispCoreGetBufSize width height)) = (true, core)) :
    ispCoreAllocBufAddr zeroCore io width height = ⟨0, core, some (dmaAddrs core)⟩ := by
  obtain ⟨hset, hsend, hget⟩ := hio
  have henough : ¬ ispCoreGetBufSize width height 0x15 < ispCoreGetBufSize width height 0x15 := by
    rw [UInt32.lt_iff_toNat_lt]
    exact Nat.lt_irrefl _
  rw [mappedCore_eq] at hcore
  simp only [ispCoreAllocBufAddr, bufferMallocWithname, hbase, Option.map_some, if_neg henough]
  rw [hcore, hset, hsend, hget]
  rfl

/-- The pool holds the thirteen buffers, wherever the driver places it. -/
theorem isp_pool_suffices (width height base : UInt32) (io : IoctlIo)
    (hbase : io.vmmAlloc ⟨ispCoreGetBufSize width height 0x15, 0x10000, "isp"⟩ = some base)
    (hio : io.setStatInfo = true ∧ io.setDmaAddrs = true ∧ io.getStatInfo = true)
    (hwrap : NoWrap width height)
    (hpool : base.toNat + (ispCoreGetBufSize width height 0x15).toNat < 2 ^ 32) :
    PoolSound base.toNat (ispCoreGetBufSize width height 0x15).toNat
      (requests (ispCoreGetBufSize width height))
      (ispCoreAllocBufAddr zeroCore io width height) := by
  have hstart := served_none hpool (requests_distinct (ispCoreGetBufSize width height))
  have hfits := requests_fit hwrap base.toNat
  rw [← mappedCore_next base (ispCoreGetBufSize width height 0x15)] at hfits
  obtain ⟨hok, hserved⟩ := allocBuffers_served hstart hfits
  rw [List.nil_append] at hserved
  generalize hrun : allocBuffers (mappedCore base (ispCoreGetBufSize width height 0x15))
    (requests (ispCoreGetBufSize width height)) = run at hok hserved
  obtain ⟨ok, core⟩ := run
  subst hok
  rw [ispCoreAllocBufAddr_granted hbase hio hrun]
  exact hserved.sound

theorem isp_pool_suffices_sample :
    PoolSound 0xa0000040 (ispCoreGetBufSize 1920 1080 0x15).toNat
      (requests (ispCoreGetBufSize 1920 1080))
      (ispCoreAllocBufAddr zeroCore ⟨fun _ => some 0xa0000040, true, true, true⟩ 1920 1080) := by
  refine isp_pool_suffices 1920 1080 0xa0000040 _ rfl ⟨rfl, rfl, rfl⟩ ?_ (by decide)
  show ∀ v ∈ bufSizeResults 1920 1080, v < 2 ^ 32
  decide

end Isp
end FH8852
