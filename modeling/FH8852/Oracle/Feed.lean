import FH8852.Oracle.FakeMpi
import FH8852.Oracle.Files

/-!
# The same frames for both servers

The oracle compares two servers, one that takes its frames from `fake_mpi.c` and one
that `replay.c` pushes them to.  Both get the same NALs at the same times.
-/

namespace FH8852
namespace Oracle

open CLib AnnexB Rtsp

/-! ## Packs in memory -/

namespace FakeMpi

def readPack (mem : Buf) (pk : Nat) : Pack :=
  ⟨mem.load32 (pk + 0x08), mem.load32 (pk + 0x0c), mem.load64 (pk + 0x10), mem.load32 (pk + 0x18),
    mem.load32 (pk + 0x1c)⟩

def readPacks (mem : Buf) : (pk count : Nat) → List Pack
  | _, 0 => []
  | pk, count + 1 => readPack mem pk :: readPacks mem (pk + packSize) count

theorem readPack_writePack (mem : Buf) (pk : Nat) (p : Pack) :
    readPack (writePack mem pk p) pk = p := by
  have hapart : ∀ a m b n, pk + a + m ≤ pk + b ∨ pk + b + n ≤ pk + a →
    Buf.Apart (pk + a) m (pk + b) n :=
    fun _ _ _ _ h => h
  have haddr : (writePack mem pk p).load32 (pk + 0x08) = p.addr := by
    rw [writePack, Buf.load32, Buf.read_store32_apart (hapart _ _ _ _ (by omega)),
      Buf.read_store32_apart (hapart _ _ _ _ (by omega)),
      Buf.read_store64_apart (hapart _ _ _ _ (by omega)),
      Buf.read_store32_apart (hapart _ _ _ _ (by omega))]
    exact Buf.load32_store32 _ _ _
  have hlen : (writePack mem pk p).load32 (pk + 0x0c) = p.len := by
    rw [writePack, Buf.load32, Buf.read_store32_apart (hapart _ _ _ _ (by omega)),
      Buf.read_store32_apart (hapart _ _ _ _ (by omega)),
      Buf.read_store64_apart (hapart _ _ _ _ (by omega))]
    exact Buf.load32_store32 _ _ _
  have hpts : (writePack mem pk p).load64 (pk + 0x10) = p.pts := by
    rw [writePack, Buf.load64, Buf.read_store32_apart (hapart _ _ _ _ (by omega)),
      Buf.read_store32_apart (hapart _ _ _ _ (by omega))]
    exact Buf.load64_store64 _ _ _
  have hlast : (writePack mem pk p).load32 (pk + 0x18) = p.last := by
    rw [writePack, Buf.load32, Buf.read_store32_apart (hapart _ _ _ _ (by omega))]
    exact Buf.load32_store32 _ _ _
  have htype : (writePack mem pk p).load32 (pk + 0x1c) = p.type := Buf.load32_store32 _ _ _
  rw [readPack, haddr, hlen, hpts, hlast, htype]

/-- A pack is written in its place and nowhere else. -/
theorem writePack_outside (mem : Buf) {pk k : Nat} (p : Pack) (h : k < pk ∨ pk + packSize ≤ k) :
    writePack mem pk p k = mem k := by
  unfold packSize at h
  have hword : ∀ (mem : Buf) (a n v : Nat), a + n ≤ 0x88 →
    mem.write (pk + a) (leBytes n v) k = mem k := by
    intro mem a n v ha
    apply Buf.write_outside
    rw [leBytes_length]
    omega
  have hzero : (mem.write pk (List.replicate packSize 0)) k = mem k := by
    apply Buf.write_outside
    rw [List.length_replicate]
    exact h
  rw [writePack]
  refine (hword _ 0x1c 4 _ (by omega)).trans ?_
  refine (hword _ 0x18 4 _ (by omega)).trans ?_
  refine (hword _ 0x10 8 _ (by omega)).trans ?_
  refine (hword _ 0x0c 4 _ (by omega)).trans ?_
  exact (hword _ 0x08 4 _ (by omega)).trans hzero

theorem readPack_congr {mem mem' : Buf} {pk : Nat}
    (h : ∀ k, pk ≤ k → k < pk + packSize → mem k = mem' k) :
      readPack mem pk = readPack mem' pk := by
  unfold packSize at h
  have hread : ∀ a n, a + n ≤ 0x88 → mem.read (pk + a) n = mem'.read (pk + a) n :=
    fun a n ha => Buf.read_congr fun k hk => h _ (by omega) (by omega)
  simp only [readPack, Buf.load32, Buf.load64, hread 0x08 4 (by omega), hread 0x0c 4 (by omega),
    hread 0x10 8 (by omega), hread 0x18 4 (by omega), hread 0x1c 4 (by omega)]

/-! ## The packs of an access unit -/

section Packs

variable {g : Clip}

/-- What the loop of `HI_MPI_VENC_GetStream` writes. -/
def packsOf (g : Clip) (pts : UInt64) (count : Nat) : List Nal → (k : Nat) → List Pack
  | [], _ => []
  | n :: nals, k =>
    packOf g pts count k n ((nalType g.bytes n).getD 0) :: packsOf g pts count nals (k + 1)

theorem packLoop_some {nals : List Nal} (htypes : ∀ n ∈ nals, (nalType g.bytes n).isSome)
    (pts : UInt64) (packs count k : Nat) (mem : Buf) :
    ∃ mem', packLoop g pts packs count nals k mem = some mem' := by
  induction nals generalizing k mem with
  | nil => exact ⟨mem, rfl⟩
  | cons n nals ih =>
      obtain ⟨hn, hnals⟩ := List.forall_mem_cons.mp htypes
      obtain ⟨t, ht⟩ := Option.isSome_iff_exists.mp hn
      obtain ⟨mem', hmem⟩ := ih hnals (k + 1) _
      refine ⟨mem', ?_⟩
      rw [packLoop, ht]
      exact hmem

theorem packLoop_spec {nals : List Nal} {pts : UInt64} {packs count k : Nat} {mem mem' : Buf}
    (h : packLoop g pts packs count nals k mem = some mem') :
    (∀ j, j < packs + k * packSize ∨ packs + (k + nals.length) * packSize ≤ j → mem' j = mem j) ∧
      readPacks mem' (packs + k * packSize) nals.length = packsOf g pts count nals k := by
  induction nals generalizing k mem with
  | nil =>
      rw [packLoop, Option.some.injEq] at h
      exact ⟨fun _ _ => h ▸ rfl, rfl⟩
  | cons n nals ih =>
      rw [packLoop] at h
      obtain ⟨t, ht, h⟩ := Option.bind_eq_some_iff.mp h
      obtain ⟨hframe, hpacks⟩ := ih h
      have hnext : packs + k * packSize + packSize = packs + (k + 1) * packSize := by
        rw [Nat.succ_mul, Nat.add_assoc]
      have hlen : k + (n :: nals).length = k + 1 + nals.length := by
        rw [List.length_cons]
        omega
      rw [hlen, List.length_cons, readPacks, packsOf, hnext, hpacks, ht]
      refine ⟨fun j hj => ?_, ?_⟩
      · have hmono : (k + 1) * packSize ≤ (k + 1 + nals.length) * packSize :=
          Nat.mul_le_mul_right _ (Nat.le_add_right _ _)
        rw [hframe j (by omega), writePack_outside _ _ (by omega)]
      · have hkept : readPack mem' (packs + k * packSize) = readPack (writePack mem _ _) _ :=
          readPack_congr fun j _ hj => hframe j (by omega)
        rw [hkept, readPack_writePack]
        exact rfl

end Packs

/-! ## From packs to pushes -/

/-- What a pack hands over, its start code stripped. -/
def Pack.push (mem : Buf) (stream : Int) (p : Pack) : Push :=
  ⟨stream, Streamer.stripStartCode (mem.read p.addr.toNat p.len.toNat), p.pts, decide (p.last ≠ 0)⟩

theorem stripStartCode_behind (long : Bool) (s : Bytes) :
    Streamer.stripStartCode (startCode long ++ s) = s := by
  cases long
  · have hone : ¬ (1 : UInt8) = 0 := by decide
    have hlong : ¬ (4 ≤ (startCode false ++ s).length ∧ (startCode false ++ s).getD 0 0 = 0 ∧
        (startCode false ++ s).getD 1 0 = 0 ∧ (startCode false ++ s).getD 2 0 = 0 ∧
        (startCode false ++ s).getD 3 0 = 1) := fun h => hone h.2.2.2.1
    have hshort : 3 ≤ (startCode false ++ s).length ∧ (startCode false ++ s).getD 0 0 = 0 ∧
        (startCode false ++ s).getD 1 0 = 0 ∧ (startCode false ++ s).getD 2 0 = 1 := by
      refine ⟨?_, rfl, rfl, rfl⟩
      rw [List.length_append]
      exact Nat.le_add_right _ _
    rw [Streamer.stripStartCode, if_neg hlong, if_pos hshort]
    exact List.drop_left' rfl
  · have hlong : 4 ≤ (startCode true ++ s).length ∧ (startCode true ++ s).getD 0 0 = 0 ∧
        (startCode true ++ s).getD 1 0 = 0 ∧ (startCode true ++ s).getD 2 0 = 0 ∧
        (startCode true ++ s).getD 3 0 = 1 := by
      refine ⟨?_, rfl, rfl, rfl, rfl⟩
      rw [List.length_append]
      exact Nat.le_add_right _ _
    rw [Streamer.stripStartCode, if_pos hlong]
    exact List.drop_left' rfl

/-- The file lies at `g_buf`. -/
structure Holds (g : Clip) (mem : Buf) : Prop where
  room : g.gBuf.toNat + g.bytes.length < 2 ^ 32
  bytes : mem.read g.gBuf.toNat g.bytes.length = g.bytes

/-- The memory at the address of a NAL. -/
theorem Holds.nal {g : Clip} {mem : Buf} (h : Holds g mem) {n : Nal} (hn : Whole g.bytes n) :
    mem.read (g.gBuf + UInt32.ofNat n.p).toNat (UInt32.ofNat n.len).toNat = n.bytes g.bytes := by
  have hroom := h.room
  have hinside := hn.inside
  have hends := hn.ends
  have hsize : UInt32.size = 2 ^ 32 := rfl
  have hp : (UInt32.ofNat n.p).toNat = n.p := UInt32.toNat_ofNat_of_lt' (by omega)
  have haddr : (g.gBuf + UInt32.ofNat n.p).toNat = g.gBuf.toNat + n.p := by
    rw [UInt32.toNat_add, hp]
    omega
  have hlen : (UInt32.ofNat n.len).toNat = n.len := UInt32.toNat_ofNat_of_lt' (by omega)
  have hpart := mem.read_part g.gBuf.toNat hends
  rw [h.bytes] at hpart
  rw [haddr, hlen, ← hpart]
  exact rfl

/-- The packs of some NALs are the pushes of the same NALs. -/
theorem packs_pushes {g : Clip} {mem : Buf} (h : Holds g mem) {nals : List Nal}
    (hnals : ∀ n ∈ nals, Whole g.bytes n) (stream : Int) (pts : UInt64) (count k : Nat) :
    (packsOf g pts count nals k).map (Pack.push mem stream) =
      Replay.pushLoop g.bytes stream pts count (nals.map (behindCode g.bytes)) k := by
  induction nals generalizing k with
  | nil => rfl
  | cons n nals ih =>
      obtain ⟨hn, hnals⟩ := List.forall_mem_cons.mp hnals
      have hnal : Streamer.stripStartCode (n.bytes g.bytes) =
        (behindCode g.bytes n).bytes g.bytes := by
        obtain ⟨long, -, hbytes⟩ := hn.bytes
        rw [hbytes]
        exact stripStartCode_behind long _
      have hlast : decide ((if k + 1 = count then 1 else 0 : UInt32) ≠ 0) =
        decide (k + 1 = count) := by
        split
        · rename_i hk
          rw [decide_eq_true hk]
          rfl
        · rename_i hk
          rw [decide_eq_false hk]
          rfl
      rw [packsOf, List.map_cons, List.map_cons, Replay.pushLoop, ih hnals]
      congr 1
      show Push.mk stream (Streamer.stripStartCode (mem.read _ _)) pts _ = _
      rw [← hnal, ← hlast, ← h.nal hn]
      exact rfl

/-! ## Runs -/

section Run

variable (g : Clip)

/-- The write of the program's memory leaves the file alone: for a call of
`HI_MPI_VENC_GetStream`, the array of packs that it hands over, whatever the access unit. -/
def Call.Spares : Call → Prop
  | .store addr data => Buf.Apart g.gBuf.toNat g.bytes.length addr data.length
  | .getStream _ stream _ =>
    ∀ u ∈ g.aus, Buf.Apart g.gBuf.toNat g.bytes.length (stream 0).toNat (u.count * packSize)
  | .tick _ | .getFd _ | .queryStatus _ | .releaseStream _ | .requestIdr _ _ => True

def Call.isTick (c : Fin channels) : Call → Bool
  | .tick c' => c' == c
  | _ => false

def Call.isGet (c : Fin channels) : Call → Bool
  | .getStream chn _ _ => channel chn == some c
  | _ => false

def Call.isRelease (c : Fin channels) : Call → Bool
  | .releaseStream chn => channel chn == some c
  | _ => false

/-- What the calls so far have made of a channel. -/
structure Counts (c : Fin channels) (calls : List Call) (ch : Channel) : Prop where
  au : ch.au = calls.countP (Call.isRelease c) % g.aus.length
  seq : ch.seq = UInt32.ofNat (calls.countP (Call.isGet c))
  pipe : ch.pipe + calls.countP (Call.isGet c) = calls.countP (Call.isTick c)

/-- The state after some calls. -/
structure After (calls : List Call) (s : Mpi) : Prop where
  holds : Holds g s.mem
  counts : ∀ c, Counts g c calls (s.chns c)

end Run

variable {g : Clip}

/-- A change of one channel. -/
theorem setChn_chns (s : Mpi) (c c' : Fin channels) (f : Channel → Channel) :
    (s.setChn c f).chns c' = if c' = c then f (s.chns c) else s.chns c' := by
  by_cases h : c' = c
  · subst h
    rw [if_pos rfl]
    exact Function.update_self _ _ _
  · rw [if_neg h]
    exact Function.update_of_ne h _ _

theorem channel_of_fin (c : Fin channels) : channel c = some c := by
  have hlt : 0 ≤ ((c : Nat) : Int) ∧ ((c : Nat) : Int).toNat < channels := ⟨by omega, by omega⟩
  rw [channel, dif_pos hlt]
  exact rfl

/-- What a call of `HI_MPI_VENC_GetStream` that returns a frame does. -/
structure Delivers (g : Clip) (s : Mpi) (c : Fin channels) (stream : Nat → UInt32) (u : AccessUnit)
    (mem : Buf) (got : Got) : Prop where
  unit : g.aus[(s.chns c).au]? = some u
  inRange : u.first + u.count ≤ g.nals.length
  loop : packLoop g (framePts g.pts0 (s.chns c).seq) (stream 0).toNat u.count
    (u.run g.nals) 0 s.mem = some mem
  waits : (s.chns c).pipe ≠ 0
  result : got.result = 0
  mpi : got.mpi = { s with mem := mem }.setChn c fun ch =>
    { ch with seq := ch.seq + 1, pipe := ch.pipe - 1 }
  count : got.stream 1 = UInt32.ofNat u.count

theorem getStream_cases {s : Mpi} {chn timeout : Int} {stream : Nat → UInt32} {got : Got}
    (h : hiMpiVencGetStream g s chn stream timeout = some got) :
    (channel chn = none ∧ got.mpi = s) ∨
      ∃ c u mem, channel chn = some c ∧ Delivers g s c stream u mem got := by
  unfold hiMpiVencGetStream at h
  cases hchn : channel chn with
  | none =>
      rw [hchn, Option.some.injEq] at h
      exact .inl ⟨rfl, h ▸ rfl⟩
  | some c =>
      simp only [hchn] at h
      split at h
      · cases h
      · rename_i hpipe
        obtain ⟨u, hu, h⟩ := Option.bind_eq_some_iff.mp h
        split at h
        · cases h
        · rename_i hrange
          obtain ⟨mem, hmem, h⟩ := Option.bind_eq_some_iff.mp h
          obtain rfl := Option.some.inj h
          exact .inr ⟨c, u, mem, rfl, hu, by omega, hmem, hpipe, rfl, rfl, rfl⟩

/-- A frame is delivered where there is one. -/
theorem getStream_delivers {s : Mpi} {c : Fin channels} {stream : Nat → UInt32} {u : AccessUnit}
    (timeout : Int) (hpipe : (s.chns c).pipe ≠ 0) (hunit : g.aus[(s.chns c).au]? = some u)
    (hrange : u.first + u.count ≤ g.nals.length)
    (htypes : ∀ n ∈ g.nals, (nalType g.bytes n).isSome) :
    ∃ got mem, hiMpiVencGetStream g s c stream timeout = some got ∧
      Delivers g s c stream u mem got := by
  obtain ⟨mem, hmem⟩ := @packLoop_some g (u.run g.nals)
    (fun n hn => htypes n (List.mem_of_mem_drop (List.mem_of_mem_take hn)))
    (framePts g.pts0 (s.chns c).seq) (stream 0).toNat u.count 0 s.mem
  have hget : ∃ got, hiMpiVencGetStream g s c stream timeout = some got := by
    unfold hiMpiVencGetStream
    simp only [channel_of_fin, if_neg hpipe, hunit, Option.bind_eq_bind, Option.bind_some,
      if_neg (Nat.not_lt.mpr hrange), hmem]
    exact ⟨_, rfl⟩
  obtain ⟨got, hgot⟩ := hget
  rcases getStream_cases hgot with ⟨hnone, -⟩ | ⟨c', u', mem', hchn, hdelivers⟩
  · rw [channel_of_fin] at hnone
    cases hnone
  · rw [channel_of_fin, Option.some.injEq] at hchn
    subst hchn
    have hunits := hdelivers.unit
    rw [hunit, Option.some.injEq] at hunits
    subst hunits
    exact ⟨got, mem', hgot, hdelivers⟩

/-- One more call, from what it does to the channel. -/
theorem Counts.snoc {c : Fin channels} {calls : List Call} {call : Call} {ch ch' : Channel}
    (h : Counts g c calls ch)
    (hau : ch'.au = if call.isRelease c then (ch.au + 1) % g.aus.length else ch.au)
    (hseq : ch'.seq = if call.isGet c then ch.seq + 1 else ch.seq)
    (hpipe : (ch'.pipe + if call.isGet c then 1 else 0) =
      ch.pipe + if call.isTick c then 1 else 0) :
    Counts g c (calls ++ [call]) ch' := by
  have hcount : ∀ p : Call → Bool,
    (calls ++ [call]).countP p = calls.countP p + if p call then 1 else 0 := by
    intro p
    rw [List.countP_append, List.countP_singleton]
  have hold := h.pipe
  refine ⟨?_, ?_, ?_⟩
  · rw [hcount, hau, h.au]
    split
    · rw [Nat.mod_add_mod]
    · rfl
  · rw [hcount, hseq, h.seq]
    split
    · rw [UInt32.ofNat_add]
      exact rfl
    · rfl
  · rw [hcount, hcount]
    omega

theorem Counts.other {c : Fin channels} {calls : List Call} {call : Call} {ch : Channel}
    (h : Counts g c calls ch) (hrelease : call.isRelease c = false) (hget : call.isGet c = false)
    (htick : call.isTick c = false) : Counts g c (calls ++ [call]) ch := by
  refine h.snoc ?_ ?_ ?_
  · rw [hrelease, if_neg Bool.false_ne_true]
  · rw [hget, if_neg Bool.false_ne_true]
  · rw [hget, htick]

/-- The loop of `HI_MPI_VENC_GetStream` leaves the file alone. -/
theorem Holds.packLoop {mem mem' : Buf} (h : Holds g mem) {u : AccessUnit} {stream : Nat → UInt32}
    {pts : UInt64}
    (hloop : packLoop g pts (stream 0).toNat u.count (u.run g.nals) 0 mem = some mem')
    (hapart : Buf.Apart g.gBuf.toNat g.bytes.length (stream 0).toNat (u.count * packSize)) :
    Holds g mem' := by
  refine ⟨h.room, Eq.trans ?_ h.bytes⟩
  have hlen : (u.run g.nals).length * packSize ≤ u.count * packSize := by
    refine Nat.mul_le_mul_right _ ?_
    rw [AccessUnit.run, List.length_take]
    exact Nat.min_le_left _ _
  have hframe := (packLoop_spec hloop).1
  rw [Nat.zero_mul, Nat.add_zero, Nat.zero_add] at hframe
  unfold Buf.Apart at hapart
  exact Buf.read_congr fun k hk => hframe _ (by omega)

theorem After.step {calls : List Call} {call : Call} {s s' : Mpi} (h : After g calls s)
    (hspares : call.Spares g) (happly : call.apply g s = some s') :
      After g (calls ++ [call]) s' := by
  cases call with
  | tick c =>
      obtain rfl := Option.some.inj happly
      refine ⟨h.holds, fun c' => ?_⟩
      rw [setChn_chns]
      split
      · rename_i hc
        subst hc
        exact (h.counts c').snoc rfl rfl (by simp [Call.isTick, Call.isGet])
      · rename_i hc
        exact (h.counts c').other rfl rfl (by simp [Call.isTick, Ne.symm hc])
  | store addr data =>
      obtain rfl := Option.some.inj happly
      exact ⟨⟨h.holds.room, (Buf.read_write_apart hspares).trans h.holds.bytes⟩,
        fun c => (h.counts c).other rfl rfl rfl⟩
  | getFd chn =>
      obtain rfl := Option.some.inj happly
      exact ⟨h.holds, fun c => (h.counts c).other rfl rfl rfl⟩
  | requestIdr chn instant =>
      obtain rfl := Option.some.inj happly
      exact ⟨h.holds, fun c => (h.counts c).other rfl rfl rfl⟩
  | queryStatus chn =>
      obtain ⟨words, -, rfl⟩ := Option.map_eq_some_iff.mp happly
      exact ⟨h.holds, fun c => (h.counts c).other rfl rfl rfl⟩
  | getStream chn stream timeout =>
      obtain ⟨got, hgot, rfl⟩ := Option.map_eq_some_iff.mp happly
      rcases getStream_cases hgot with ⟨hchn, hsame⟩ | ⟨c, u, mem, hchn, hdelivers⟩
      · rw [hsame]
        exact ⟨h.holds, fun c => (h.counts c).other rfl (by simp [Call.isGet, hchn]) rfl⟩
      · have hmem : Holds g mem :=
          h.holds.packLoop hdelivers.loop (hspares u (List.mem_of_getElem? hdelivers.unit))
        have hwaits := hdelivers.waits
        rw [hdelivers.mpi]
        refine ⟨hmem, fun c' => ?_⟩
        rw [setChn_chns]
        split
        · rename_i hc
          subst hc
          have hget : (Call.getStream chn stream timeout).isGet c' = true := by
            simp [Call.isGet, hchn]
          refine (h.counts c').snoc rfl ?_ ?_
          · rw [hget, if_pos rfl]
          · rw [hget, if_pos rfl]
            show (s.chns c').pipe - 1 + 1 = _ + 0
            omega
        · rename_i hc
          have hget : (Call.getStream chn stream timeout).isGet c' = false := by
            simp [Call.isGet, hchn, Ne.symm hc]
          exact (h.counts c').other rfl hget rfl
  | releaseStream chn =>
      obtain rfl := Option.some.inj happly
      cases hchn : channel chn with
      | none =>
          rw [hiMpiVencReleaseStream, hchn]
          exact ⟨h.holds, fun c => (h.counts c).other (by simp [Call.isRelease, hchn]) rfl rfl⟩
      | some c =>
          rw [hiMpiVencReleaseStream, hchn]
          refine ⟨h.holds, fun c' => ?_⟩
          rw [setChn_chns]
          split
          · rename_i hc
            subst hc
            exact (h.counts c').snoc (by simp [Call.isRelease, hchn]) rfl rfl
          · rename_i hc
            exact (h.counts c').other (by simp [Call.isRelease, hchn, Ne.symm hc]) rfl rfl

theorem After.run {calls before : List Call} {s s' : Mpi} (h : After g before s)
    (hspares : ∀ call ∈ calls, call.Spares g) (hrun : run g s calls = some s') :
    After g (before ++ calls) s' := by
  induction calls generalizing before s with
  | nil =>
      rw [List.append_nil, ← Option.some.inj hrun]
      exact h
  | cons call calls ih =>
      obtain ⟨hcall, hcalls⟩ := List.forall_mem_cons.mp hspares
      obtain ⟨mid, happly, hrest⟩ := Option.bind_eq_some_iff.mp hrun
      have hnext := ih (h.step hcall happly) hcalls hrest
      rwa [List.append_assoc] at hnext

theorem run_after {calls : List Call} {mem : Buf} {s : Mpi} (hholds : Holds g mem)
    (hspares : ∀ call ∈ calls, call.Spares g) (hrun : FakeMpi.run g (initial mem) calls = some s) :
    After g calls s := by
  have hstart : After g [] (initial mem) := ⟨hholds, fun _ => ⟨rfl, rfl, rfl⟩⟩
  exact hstart.run hspares hrun

end FakeMpi

/-! ## The two feeds -/

theorem pushLoop_filter (b : Bytes) (stream c : Int) (pts : UInt64) (count : Nat) (nals : List Nal)
    (k : Nat) : (Replay.pushLoop b stream pts count nals k).filter (fun p => p.streamId == c) =
      if stream = c then Replay.pushLoop b stream pts count nals k else [] := by
  induction nals generalizing k with
  | nil => exact (ite_self _).symm
  | cons n nals ih =>
      rw [Replay.pushLoop, List.filter_cons, ih]
      by_cases h : stream = c
      · rw [if_pos h, if_pos h, if_pos (beq_iff_eq.mpr h)]
      · rw [if_neg h, if_neg h, if_neg (by rw [beq_iff_eq]; exact h)]

/-- The pushes of a round on one of the streams. -/
theorem round_filter {clip : Replay.Clip} {seq : UInt32} {u : AccessUnit}
    (hunit : clip.aus[(seq % UInt32.ofNat clip.aus.length).toNat]? = some u)
    (hrange : u.first + u.count ≤ clip.nals.length) (c : Fin channels) :
    ∃ pushes, Replay.round clip seq = some pushes ∧
      pushes.filter (fun p => p.streamId == (c : Int)) =
      Replay.pushLoop clip.bytes c (framePts clip.pts0 seq) u.count (u.run clip.nals) 0 := by
  refine ⟨Replay.pushLoop clip.bytes 0 (framePts clip.pts0 seq) u.count (u.run clip.nals) 0 ++
    Replay.pushLoop clip.bytes 1 (framePts clip.pts0 seq) u.count (u.run clip.nals) 0, ?_, ?_⟩
  · rw [Replay.round, hunit, Option.bind_eq_bind, Option.bind_some, if_neg (Nat.not_lt.mpr hrange)]
  · rw [List.filter_append, pushLoop_filter, pushLoop_filter]
    obtain ⟨c, hc⟩ := c
    have htwo : c = 0 ∨ c = 1 := by
      unfold channels at hc
      omega
    rcases htwo with rfl | rfl
    · exact List.append_nil _
    · rfl

/-- Both programs have loaded the same file, with an access unit in it, and begin at
the same time. -/
structure SameClip (g : FakeMpi.Clip) (clip : Replay.Clip) : Prop where
  fake : FakeMpi.loadStream g.bytes = some (g.nals, g.aus)
  replay : Replay.load clip.bytes = some (clip.nals, clip.aus)
  bytes : clip.bytes = g.bytes
  pts0 : clip.pts0 = g.pts0
  units : g.aus ≠ []

theorem SameClip.loaded {g : FakeMpi.Clip} {clip : Replay.Clip} (h : SameClip g clip) :
    clip.nals = g.nals.map (behindCode g.bytes) ∧ clip.aus = g.aus := by
  have hload := load_eq g.bytes
  rw [← h.bytes, h.replay, h.bytes, h.fake, Option.map_some, Option.some.injEq] at hload
  exact Prod.mk.inj hload

/-- Where a program has released every frame of a channel before it gets the next, the
frame number `n` that `fake_mpi.c` hands it is the one that `replay.c` pushes in round
`n`: `HI_MPI_VENC_GetStream` returns once the clock has ticked for it, and the packs
that it leaves, as many as `HI_MPI_VENC_QueryStatus` told, hold the same NALs with the
same time and the same end of the frame.  No other memory is written.  The program spares
the clip: neither its own writes nor the packs it asks for reach it. -/
theorem feeds_agree {g : FakeMpi.Clip} {clip : Replay.Clip} (hclip : SameClip g clip) {mem : Buf}
    (hholds : FakeMpi.Holds g mem) {calls : List FakeMpi.Call} {s : FakeMpi.Mpi}
    (hrun : FakeMpi.run g (FakeMpi.initial mem) calls = some s)
    (hspares : ∀ call ∈ calls, FakeMpi.Call.Spares g call) (c : Fin channels) {n : Nat}
    (hgot : calls.countP (FakeMpi.Call.isGet c) = n)
    (hreleased : calls.countP (FakeMpi.Call.isRelease c) = n)
    (hticked : n < calls.countP (FakeMpi.Call.isTick c)) (hn : n < 2 ^ 32) {stream : Nat → UInt32}
    (timeout : Int) (hpacks : FakeMpi.Call.Spares g (.getStream c stream timeout)) :
    ∃ got pushes, FakeMpi.hiMpiVencGetStream g s c stream timeout = some got ∧ got.result = 0 ∧
      Replay.round clip (UInt32.ofNat n) = some pushes ∧
      (FakeMpi.readPacks got.mpi.mem (stream 0).toNat (got.stream 1).toNat).map
          (FakeMpi.Pack.push got.mpi.mem c) = pushes.filter (fun p => p.streamId == (c : Int)) ∧
      (FakeMpi.hiMpiVencQueryStatus g s c).map (fun status => status 3) = some (got.stream 1) ∧
      ∀ k, k < (stream 0).toNat ∨ (stream 0).toNat + (got.stream 1).toNat * packSize ≤ k →
        got.mpi.mem k = s.mem k := by
  obtain ⟨hnals, haus⟩ := hclip.loaded
  have hloaded := loadStream_loaded hclip.fake
  obtain ⟨hmem, hcounts⟩ := FakeMpi.run_after hholds hspares hrun
  have hcounted := hcounts c
  have hsize : UInt32.size = 2 ^ 32 := rfl
  -- the access unit that both programs are at
  have hpos : 0 < g.aus.length := List.length_pos_iff.mpr hclip.units
  have hfew := hloaded.unitsFew
  have hlt : n % g.aus.length < g.aus.length := Nat.mod_lt _ hpos
  obtain ⟨u, hunit⟩ : ∃ u, g.aus[n % g.aus.length]? = some u := ⟨_, List.getElem?_eq_getElem hlt⟩
  have hindex : (UInt32.ofNat n % UInt32.ofNat clip.aus.length).toNat = n % g.aus.length := by
    rw [haus, UInt32.toNat_mod, UInt32.toNat_ofNat_of_lt' (by omega),
      UInt32.toNat_ofNat_of_lt' (by omega)]
  have hu : g.aus[(s.chns c).au]? = some u := by rw [hcounted.au, hreleased, hunit]
  have hmember := List.mem_of_getElem? hunit
  obtain ⟨hrange, -⟩ := hloaded.units u hmember
  have hpipe : (s.chns c).pipe ≠ 0 := by
    have := hcounted.pipe
    omega
  obtain ⟨got, after, hget, hdelivers⟩ :=
    @FakeMpi.getStream_delivers g s c stream u timeout hpipe hu hrange hloaded.types
  have hafter : got.mpi.mem = after := by
    rw [hdelivers.mpi]
    exact rfl
  have hcount : (got.stream 1).toNat = u.count := by
    have := hloaded.few
    rw [hdelivers.count, UInt32.toNat_ofNat_of_lt' (by omega)]
  have hlen : (u.run g.nals).length = u.count := by
    rw [AccessUnit.run, List.length_take, List.length_drop]
    omega
  obtain ⟨hframe, hread⟩ := FakeMpi.packLoop_spec hdelivers.loop
  rw [Nat.zero_mul, Nat.add_zero, Nat.zero_add, hlen] at hframe
  rw [Nat.zero_mul, Nat.add_zero, hlen] at hread
  obtain ⟨pushes, hround, hfilter⟩ := @round_filter clip (UInt32.ofNat n) u
    (by rw [hindex, haus, hunit]) (by rw [hnals, List.length_map]; exact hrange) c
  refine ⟨got, pushes, hget, hdelivers.result, hround, ?_, ?_, ?_⟩
  · have hkept := hmem.packLoop hdelivers.loop (hpacks u hmember)
    have hwhole : ∀ m ∈ u.run g.nals, Whole g.bytes m := fun m hm =>
      hloaded.whole m (List.mem_of_mem_drop (List.mem_of_mem_take hm))
    have hrun : (u.run g.nals).map (behindCode g.bytes) = u.run clip.nals := by
      rw [hnals, AccessUnit.run, AccessUnit.run, List.map_take, List.map_drop]
    rw [hafter, hcount, hread, FakeMpi.packs_pushes hkept hwhole, hfilter, hcounted.seq, hgot, hrun,
      hclip.bytes, hclip.pts0]
  · rw [FakeMpi.hiMpiVencQueryStatus, FakeMpi.channel_of_fin, hdelivers.count]
    simp only [hu, Option.map_some]
    exact rfl
  · rw [hcount, hafter]
    exact hframe

/-- An IDR slice and another, with start codes of both lengths. -/
def twoSlices : Bytes := [0, 0, 0, 1, 0x65, 9, 0, 0, 1, 0x41, 3]

def sampleFeed : FakeMpi.Clip := ⟨64, twoSlices, [⟨0, 6⟩, ⟨6, 5⟩], [⟨0, 1⟩, ⟨1, 1⟩], 7⟩

def sampleClip : Replay.Clip := ⟨twoSlices, [⟨4, 2⟩, ⟨9, 2⟩], [⟨0, 1⟩, ⟨1, 1⟩], 7⟩

/-- A program that takes a frame of each channel. -/
def oneFrameEach : List FakeMpi.Call :=
  [.tick 0, .tick 1, .getStream 0 (fun _ => 4096) (-1), .releaseStream 0, .tick 0, .queryStatus 1,
    .getStream 1 (fun _ => 8192) (-1)]

deriving instance DecidableEq for Nal

theorem feeds_agree_sample : ∃ s got pushes,
    FakeMpi.run sampleFeed (FakeMpi.initial (Buf.zero.write 64 twoSlices)) oneFrameEach = some s ∧
      FakeMpi.hiMpiVencGetStream sampleFeed s 0 (fun _ => 4096) (-1) = some got ∧
      Replay.round sampleClip 1 = some pushes ∧
      (FakeMpi.readPacks got.mpi.mem 4096 (got.stream 1).toNat).map
        (FakeMpi.Pack.push got.mpi.mem 0) =
        pushes.filter (fun p => p.streamId == 0) := by
  have hclip : SameClip sampleFeed sampleClip :=
    { fake := by decide +kernel
      replay := by decide +kernel
      bytes := rfl
      pts0 := rfl
      units := by decide }
  have hrun : (FakeMpi.run sampleFeed (FakeMpi.initial (Buf.zero.write 64 twoSlices))
    oneFrameEach).isSome =
      true := by decide +kernel
  obtain ⟨s, hs⟩ := Option.isSome_iff_exists.mp hrun
  have hapart : ∀ u ∈ sampleFeed.aus, ∀ a : UInt32, 4096 ≤ a.toNat →
      Buf.Apart sampleFeed.gBuf.toNat sampleFeed.bytes.length a.toNat (u.count * packSize) :=
    fun _ _ _ ha => .inl ((show 64 + 11 ≤ 4096 by decide).trans ha)
  have hspares : ∀ call ∈ oneFrameEach, FakeMpi.Call.Spares sampleFeed call := by
    simp only [oneFrameEach, List.forall_mem_cons, FakeMpi.Call.Spares, true_and]
    exact ⟨fun u hu => hapart u hu 4096 (by decide), fun u hu => hapart u hu 8192 (by decide),
      fun _ h => absurd h List.not_mem_nil⟩
  obtain ⟨got, pushes, hget, -, hround, hsame, -⟩ := @feeds_agree sampleFeed sampleClip hclip
    (Buf.zero.write 64 twoSlices) ⟨by decide, Buf.read_write _ _ _⟩
    oneFrameEach s hs hspares 0 1 rfl rfl
    (by decide) (by decide) (fun _ => 4096) (-1) fun u hu => hapart u hu 4096 (by decide)
  exact ⟨s, got, pushes, hs, hget, hround, hsame⟩

end Oracle
end FH8852
