import FH8852.Streamer.Board

/-!
# The devices are set up in order

Whatever the kernel answers, `main` makes no request that the rules refuse.
-/

namespace FH8852
namespace Streamer

open CLib Dialogue

/-- An attempt that may give up on any board. -/
abbrev InOrder {α : Type} (p : Try α) (b : Board) (post : α → Board → Prop) : Prop :=
  Tries rules (fun _ => True) p b post

/-- The board `b'` is quiet, and its channels are as they were in `b`. -/
structure Board.Keeps (b b' : Board) : Prop extends b'.Quiet where
  stage : b'.stage = b.stage
  picture : b'.picture = b.picture

theorem Board.Keeps.refl {b : Board} (h : b.Quiet) : b.Keeps b := ⟨h, rfl, rfl⟩

theorem Board.Keeps.trans {b b' b'' : Board} (h : b.Keeps b') (h' : b'.Keeps b'') : b.Keeps b'' :=
  ⟨h'.toQuiet, h'.stage.trans h.stage, h'.picture.trans h.picture⟩

/-! ## Single requests -/

section Requests

variable {b : Board} {post : Answer → Board → Prop} {dev : Device} {number : UInt32}
  {words : List UInt32}

theorem ioctl_inOrder {next : Answer → Board} (hb : b.refused = false)
    (hrule : ∀ a, b.rule number words a = some (b.settle (next a) a))
    (hpost : ∀ a, post a (next a)) :
    InOrder (ioctl dev number words) b post := by
  refine tries_must (fun _ => trivial) (fun a => ?_) fun a _ _ => hpost a
  show (if b.refused then none else _) = _
  rw [hb, if_neg Bool.false_ne_true, hrule]

/-- An `ioctl` that changes nothing on the board. -/
theorem ioctl_plain (hb : b.Quiet) (hrule : ∀ a, b.rule number words a = some (b.settle b a))
    (hpost : ∀ a, post a b) : InOrder (ioctl dev number words) b post :=
  ioctl_inOrder hb.refused hrule hpost

theorem may_ioctl (hb : b.Quiet) (hrule : ∀ a, b.rule number words a = some b)
    (hpost : ∀ a, post a b) :
    InOrder (may (.ioctl dev number words)) b post := by
  refine tries_may (fun a => ?_) fun a _ => hpost a
  show (if b.refused then none else _) = _
  rw [hb.refused, if_neg Bool.false_ne_true, hrule]

/-- A block that is asked for, which the kernel does not let wrap. -/
theorem alloc_inOrder (hb : b.Quiet) (align size : UInt32) (name : Bytes)
    (hpost : ∀ a, (a.words 0).toNat + size.toNat < 2 ^ 32 →
      post a { b with free := [⟨a.words 0, size⟩] }) :
    InOrder (must (.vmmAlloc align size name)) b post := by
  refine @tries_must b _ _ _ (fun a => { b with free := [⟨a.words 0, size⟩] })
    (fun _ => trivial) (fun a => ?_) fun a hok ha => hpost a (ha hok)
  show (if b.refused then none else some (b.settle { b with free := b.free ++ _ } a)) = _
  rw [hb.refused, if_neg Bool.false_ne_true, hb.free, List.nil_append]

theorem vmmAlloc_inOrder (hb : b.Quiet) (size : UInt32) (name : Bytes)
    {post : UInt32 → Board → Prop}
    (hpost : ∀ phys, phys.toNat + size.toNat < 2 ^ 32 →
      post phys { b with free := [⟨phys, size⟩] }) :
    InOrder (vmmAlloc size name) b post :=
  tries_bind (alloc_inOrder hb _ size _ fun _ ha => tries_pure (hpost _ ha))

/-- The only block that is allocated is handed over. -/
theorem ioctl_handOver {k : Block} {next : Board → Board} (hb : b.refused = false)
    (hfree : b.free = [k]) (hrule : ∀ a, b.rule number words a = b.handOver k next a)
    (hpost : ∀ a, post a (next (b.give k))) :
    InOrder (ioctl dev number words) b post := by
  refine @ioctl_inOrder b _ _ _ _ (fun _ => next (b.give k)) hb (fun a => ?_) hpost
  have hmem : k ∈ b.free := by
    rw [hfree]
    exact List.mem_singleton.mpr rfl
  rw [hrule, Board.handOver, if_pos hmem]

theorem give_keeps (hb : b.Quiet) (k : Block) : b.Keeps (Board.give { b with free := [k] } k) := by
  refine ⟨⟨hb.refused, ?_, hb.frame, hb.mapped⟩, rfl, rfl⟩
  show [k].erase k = []
  rw [List.erase_cons_head]

/-- A block is asked for and handed over. -/
theorem vmmAlloc_handOver (hb : b.Quiet) (size : UInt32) (name : Bytes)
    {words : UInt32 → List UInt32}
    (hrule : ∀ (b : Board) phys a, b.rule number (words phys) a = b.handOver ⟨phys, size⟩ id a)
    {post : PUnit → Board → Prop} (hpost : ∀ b', b.Keeps b' → post ⟨⟩ b') :
    InOrder (do let ph ← vmmAlloc size name; let _ ← ioctl dev number (words ph)) b post := by
  refine tries_bind (vmmAlloc_inOrder hb size name fun phys _ => tries_bind ?_)
  refine ioctl_handOver hb.refused rfl (hrule _ phys) fun _ => ?_
  exact tries_pure (hpost _ (give_keeps hb _))

end Requests

/-! ## VPSS -/

section Vpss

variable {b : Board}

/-- A loop over the channels of requests that change nothing but the given blocks. -/
theorem forM_keeps {p : VpssChnDesc → Try PUnit} (hb : b.Quiet)
    (hround : ∀ d (b : Board), b.Quiet → InOrder (p d) b fun _ => b.Keeps) :
    InOrder (vpssChannels.forM p) b fun _ => b.Keeps := by
  refine @tries_forM _ _ _ _ _ _ p (fun _ => b.Keeps) vpssChannels b (.refl hb) fun d _ b' hb' => ?_
  exact (hround d b' hb'.toQuiet).mono fun _ _ => hb'.trans

theorem vpssChnAddr_inOrder (hb : b.Quiet) (d : VpssChnDesc) :
    InOrder (vpssChnAddr d) b fun _ => b.Keeps :=
  tries_bind (ioctl_plain hb (fun _ => rfl) fun q =>
    vmmAlloc_handOver hb (q.words 3) d.vmmName (fun _ _ _ => rfl) fun _ h => h)

/-- Every channel delivers the picture of its description. -/
def Board.Pictures (b : Board) (ds : List VpssChnDesc) : Prop :=
  ∀ d ∈ ds, b.picture d.chan = some (d.width, d.height)

/-- The channels have numbers of their own. -/
theorem vpssChannels_distinct : (vpssChannels.map VpssChnDesc.chan).Nodup := by decide

/-- The channels `done` have been told their pictures. -/
structure Pictured (b : Board) (todo : List VpssChnDesc) (b' : Board) : Prop extends b'.Quiet where
  stage : b'.stage = b.stage
  pictures : ∃ told, vpssChannels = told ++ todo ∧ b'.Pictures told

theorem pictures_inOrder (hb : b.Quiet) :
    InOrder (vpssChannels.forM fun d => do
      let _ ← ioctl .isp ioctlVpssSetChnAttr [d.chan, d.width, d.height]) b
      fun _ => Pictured b [] := by
  refine @tries_forM _ _ _ _ _ _ _ (Pictured b) vpssChannels b ⟨hb, rfl, [], rfl, nofun⟩
    fun d rest b' hb' => ?_
  obtain ⟨told, hsplit, htold⟩ := hb'.pictures
  refine tries_bind (ioctl_inOrder hb'.refused (fun _ => rfl) fun _ => tries_pure ?_)
  refine ⟨⟨hb'.refused, hb'.free, hb'.frame, hb'.mapped⟩, hb'.stage, told ++ [d], ?_, ?_⟩
  · rw [hsplit, List.append_assoc]
    rfl
  · have hdistinct := vpssChannels_distinct
    rw [hsplit, List.map_append, List.map_cons, List.nodup_append] at hdistinct
    refine List.forall_mem_append.mpr ⟨fun e he => ?_, List.forall_mem_singleton.mpr ?_⟩
    · have hne : e.chan ≠ d.chan :=
        hdistinct.2.2 _ (List.mem_map_of_mem he) _ List.mem_cons_self
      show Function.update b'.picture d.chan _ e.chan = _
      rw [Function.update_of_ne hne]
      exact htold e he
    · exact Function.update_self _ _ _

/-- `vpss_setup` tells every channel its picture. -/
theorem vpssSetup_inOrder (hb : b.Quiet) :
    InOrder vpssSetup b fun _ b' => b'.Quiet ∧ b'.stage = b.stage ∧ b'.Pictures vpssChannels := by
  refine tries_bind (ioctl_plain hb (fun _ => rfl) fun sz => ?_)
  refine tries_bind (vmmAlloc_inOrder hb _ _ fun ph _ => ?_)
  refine tries_bind (ioctl_handOver hb.refused rfl (fun _ => rfl) fun _ => ?_)
  have h₁ := give_keeps hb ⟨ph, sz.words 0⟩
  refine tries_bind ((forM_keeps h₁.toQuiet fun d b' hb' => vpssChnAddr_inOrder hb' d).mono ?_)
  intro _ b₂ h₂
  have hkeeps := h₁.trans h₂
  refine tries_bind (ioctl_plain h₂.toQuiet (fun _ => rfl) fun _ => ?_)
  refine tries_bind (ioctl_plain h₂.toQuiet (fun _ => rfl) fun _ => ?_)
  refine tries_bind ((pictures_inOrder h₂.toQuiet).mono ?_)
  intro _ b₃ h₃
  obtain ⟨told, hsplit, htold⟩ := h₃.pictures
  rw [List.append_nil] at hsplit
  refine tries_bind (ioctl_plain h₃.toQuiet (fun _ => rfl) fun _ => ?_)
  refine (forM_keeps h₃.toQuiet fun d b' hb' =>
    tries_bind (ioctl_plain hb' (fun _ => rfl) fun _ => tries_pure (.refl hb'))).mono ?_
  intro _ b₄ h₄
  refine ⟨h₄.toQuiet, h₄.stage.trans (h₃.stage.trans hkeeps.stage), ?_⟩
  unfold Board.Pictures
  rw [h₄.picture, hsplit]
  exact htold

end Vpss

/-! ## The ISP -/

section Isp

variable {b : Board}

/-- The addresses of the DMA block lie in the pool. -/
theorem dmaWords_held {width height base : UInt32} (hwrap : Isp.NoWrap width height)
    (hpool : base.toNat + (Isp.ispCoreGetBufSize width height 0x15).toNat < 2 ^ 32) :
    ∃ core, Isp.allocBuffers
        (Isp.mappedCore base (Isp.ispCoreGetBufSize width height 0x15))
        (Isp.requests (Isp.ispCoreGetBufSize width height)) = (true, core) ∧
      (dmaWords core).all (fun w => w = 0 ||
        Block.holds ⟨base, Isp.ispCoreGetBufSize width height 0x15⟩ w) = true := by
  have hstart := Isp.served_none hpool (Isp.requests_distinct (Isp.ispCoreGetBufSize width height))
  have hfits := Isp.requests_fit hwrap base.toNat
  rw [← Isp.mappedCore_next base (Isp.ispCoreGetBufSize width height 0x15)] at hfits
  obtain ⟨hok, hserved⟩ := Isp.allocBuffers_served hstart hfits
  rw [List.nil_append] at hserved
  generalize Isp.allocBuffers _ _ = run at hok hserved
  obtain ⟨ok, core⟩ := run
  obtain rfl : ok = true := hok
  refine ⟨core, rfl, List.all_eq_true.mpr fun w hw => ?_⟩
  obtain ⟨i, -, rfl⟩ := List.mem_map.mp hw
  rw [Bool.or_eq_true, decide_eq_true_eq, Block.holds, decide_eq_true_eq]
  -- a word is 0 or the address of a buffer
  have hbuffer : Isp.dmaAddrs core (4 * i) = 0 ∨
      ∃ buf, Isp.dmaAddrs core (4 * i) = core.addr buf := by
    unfold Isp.dmaAddrs
    split
    all_goals first | exact .inl rfl | exact .inr ⟨_, rfl⟩
  rcases hbuffer with hzero | ⟨buf, hbuf⟩
  · exact .inl hzero
  · rw [hbuf]
    obtain ⟨size, hmem⟩ := Isp.mem_requests (Isp.ispCoreGetBufSize width height) buf
    by_cases hsize : core.size buf = 0
    · exact .inl (hserved.empty _ hmem ((hserved.size _ hmem).symm.trans hsize))
    · have hinside : base.toNat ≤ (core.addr buf).toNat ∧
        (core.addr buf).toNat + (core.size buf).toNat ≤
          base.toNat + (Isp.ispCoreGetBufSize width height 0x15).toNat := hserved.inside hmem hsize
      have hpos : 0 < (core.size buf).toNat := by
        rcases Nat.eq_zero_or_pos (core.size buf).toNat with h | h
        · exact absurd (UInt32.toNat_inj.mp h) hsize
        · exact h
      refine .inr ⟨hinside.1, ?_⟩
      show (core.addr buf).toNat < base.toNat + (Isp.ispCoreGetBufSize width height 0x15).toNat
      have hend := hinside.2
      omega

theorem rule_dmaAddrs {k : Block} {words : List UInt32} {a : Answer}
    (hlast : b.free.getLast? = some k) (hwords : (words.all fun w => w = 0 || k.holds w) = true) :
    b.rule ioctlIspSetDmaAddrs words a = b.handOver k id a := by
  have hrule : b.rule ioctlIspSetDmaAddrs words a = b.free.getLast?.bind fun k =>
      if words.all fun w => w = 0 || k.holds w then b.handOver k id a else none := rfl
  rw [hrule, hlast, Option.bind_some, if_pos hwords]

/-- An `ioctl` that is checked for 0. -/
theorem ispIoctl_inOrder {number : UInt32} {words : List UInt32} {next : Board}
    {post : Answer → Board → Prop} (hb : b.refused = false)
    (hrule : ∀ a, b.rule number words a = some (b.settle next a)) (hpost : ∀ a, post a next) :
    InOrder (ispIoctl number words) b post := by
  refine tries_checked fun a _ => ⟨b.settle next a, ?_, ?_⟩
  · show (if b.refused then none else _) = _
    rw [hb, if_neg Bool.false_ne_true, hrule]
  · by_cases hzero : a.ret = 0
    · have hfailed : a.failed = false := by
        rw [Answer.failed, hzero]
        rfl
      rw [if_neg (by rw [decide_eq_true_eq]; exact not_not_intro hzero), Board.settle, hfailed,
        if_neg Bool.false_ne_true]
      exact hpost a
    · rw [if_pos (decide_eq_true hzero)]
      trivial

/-- The pool goes to the ISP, whose buffers lie in it. -/
theorem ispCoreAllocBufAddr_inOrder (hb : b.Quiet) {width height : UInt32}
    (hwrap : Isp.NoWrap width height) :
    InOrder (ispCoreAllocBufAddr width height) b fun _ => b.Keeps := by
  have hheld := fun base => @dmaWords_held width height base hwrap
  unfold ispCoreAllocBufAddr
  generalize Isp.ispCoreGetBufSize width height = bufsz at hheld ⊢
  dsimp only
  refine tries_bind (may_ioctl hb (fun _ => rfl) fun _ => ?_)
  refine tries_bind (may_ioctl hb (fun _ => rfl) fun _ => ?_)
  refine tries_bind (alloc_inOrder hb _ _ _ fun a hroom => ?_)
  obtain ⟨core, halloc, hwords⟩ := hheld _ hroom
  have henough : ¬ bufsz 0x15 < bufsz 0x15 := by
    rw [UInt32.lt_iff_toNat_lt]
    exact Nat.lt_irrefl _
  rw [if_neg henough]
  generalize hrun : Isp.allocBuffers _ _ = run
  obtain rfl : run = (true, core) := hrun.symm.trans halloc
  rw [if_pos rfl]
  have hkeeps := give_keeps hb ⟨a.words 0, bufsz 0x15⟩
  refine tries_bind (ispIoctl_inOrder hb.refused (fun _ => rfl) fun _ => ?_)
  refine tries_bind (@ispIoctl_inOrder _ _ _
    (Board.give { b with free := [⟨a.words 0, bufsz 0x15⟩] } ⟨a.words 0, bufsz 0x15⟩) _
    hb.refused (fun r => ?_) fun _ => ?_)
  · rw [rule_dmaAddrs rfl hwords, Board.handOver, if_pos (List.mem_singleton.mpr rfl)]
    exact rfl
  · exact tries_bind (ispIoctl_inOrder hkeeps.refused (fun _ => rfl) fun _ => tries_pure hkeeps)

theorem ispSetup_inOrder (hb : b.Quiet) {width height : UInt32} (hwrap : Isp.NoWrap width height) :
    InOrder (ispSetup width height) b fun _ => b.Keeps := by
  refine tries_bind (ioctl_plain hb (fun _ => rfl) fun _ => ?_)
  refine tries_bind (may_ioctl hb (fun _ => rfl) fun _ => ?_)
  refine tries_bind (ioctl_plain hb (fun _ => rfl) fun _ => ?_)
  refine tries_bind (ioctl_plain hb (fun _ => rfl) fun _ => ?_)
  refine tries_bind (ioctl_plain hb (fun _ => rfl) fun _ => ?_)
  refine tries_bind (ioctl_plain hb (fun _ => rfl) fun _ => ?_)
  refine tries_bind (ioctl_plain hb (fun _ => rfl) fun _ => ?_)
  refine tries_bind ((ispCoreAllocBufAddr_inOrder hb hwrap).mono fun _ b' hb' => ?_)
  have hquiet : ∀ q : Request,
    (∀ a, b'.step q a = if b'.refused then none else some (b'.settle b' a)) →
      InOrder (must q) b' fun _ => b.Keeps := by
    intro q hq
    refine @tries_must b' _ _ q (fun _ => b') (fun _ => trivial) (fun a => ?_) fun _ _ _ => hb'
    rw [hq, hb'.refused, if_neg Bool.false_ne_true]
  refine tries_bind ((hquiet _ fun _ => rfl).mono fun _ b'' hb'' => ?_)
  refine tries_bind (@tries_may b'' _ _ _ (fun _ => b'') (fun a => ?_) fun _ _ => ?_)
  · show (if b''.refused then none else some b'') = _
    rw [hb''.refused, if_neg Bool.false_ne_true]
  · exact tries_bind (may_ioctl hb''.toQuiet (fun _ => rfl) fun _ => tries_pure hb'')

end Isp

/-! ## The encoder -/

section Encoder

variable {b : Board}

/-- The channel has come to the stage `st`, and nothing else has changed. -/
structure Board.Moves (b : Board) (chan : UInt32) (st : Stage) (b' : Board) :
    Prop extends b'.Quiet where
  stage : b'.stage = Function.update b.stage chan st
  picture : b'.picture = b.picture

theorem Board.Moves.at {b b' : Board} {chan : UInt32} {st : Stage} (h : b.Moves chan st b') :
    b'.stage chan = st := by
  rw [h.stage, Function.update_self]

/-- A channel goes from one stage to the next. -/
theorem advance_inOrder {b' : Board} {chan : UInt32} {old : Stage} (new : Stage) {dev : Device}
    {number : UInt32} {words : List UInt32} {post : Answer → Board → Prop}
    (hb : b.Moves chan old b')
    (hrule : ∀ a, b'.rule number words a = b'.advance chan old new a)
    (hpost : ∀ a b'', b.Moves chan new b'' → post a b'') :
      InOrder (ioctl dev number words) b' post := by
  refine @ioctl_inOrder b' _ _ _ _ (fun _ => b'.setStage chan new) hb.refused (fun a => ?_) fun a =>
    ?_
  · rw [hrule, Board.advance, if_pos hb.at]
  · refine hpost a _ ⟨⟨hb.refused, hb.free, hb.frame, hb.mapped⟩, ?_, hb.picture⟩
    show Function.update b'.stage chan new = _
    rw [hb.stage, Function.update_idem]

theorem vencChnSetup_inOrder (hb : b.Quiet) {chan width height : UInt32} (bitrateKbps : UInt32)
    (hstage : b.stage chan = .idle) (hpicture : b.picture chan = some (width, height)) :
    InOrder (vencChnSetup chan width height bitrateKbps) b fun _ => b.Moves chan .rated := by
  refine tries_bind (ioctl_plain hb (fun _ => rfl) fun q => ?_)
  refine tries_bind (vmmAlloc_inOrder hb _ _ fun ph _ => ?_)
  have hcreate : ∀ a, Board.rule { b with free := [⟨ph, q.words 1⟩] } ioctlVencCreateChn
      [chan, ph, 0, q.words 1, width, height, 0] a =
      Board.handOver { b with free := [⟨ph, q.words 1⟩] } ⟨ph, q.words 1⟩
        (fun b => b.setStage chan .created) a := fun a => if_pos ⟨hstage, hpicture⟩
  refine tries_bind (ioctl_handOver hb.refused rfl hcreate fun _ => ?_)
  have hgiven := give_keeps hb ⟨ph, q.words 1⟩
  have hcreated : b.Moves chan .created
      ((Board.give { b with free := [⟨ph, q.words 1⟩] } ⟨ph, q.words 1⟩).setStage chan .created) :=
    ⟨⟨hgiven.refused, hgiven.free, hgiven.frame, hgiven.mapped⟩, rfl, rfl⟩
  refine tries_bind (advance_inOrder .configured hcreated (fun a => ?_) fun _ b₁ h₁ => ?_)
  · exact if_pos ⟨hpicture, hpicture⟩
  · refine tries_bind (advance_inOrder .rated h₁ (fun _ => rfl) fun _ b₂ h₂ => ?_)
    exact tries_pure h₂

theorem vencBindAndStart_inOrder {b' : Board} {chan : UInt32} (hb : b.Moves chan .rated b') :
    InOrder (vencBindAndStart chan) b' fun _ => b.Moves chan .started := by
  refine tries_bind (advance_inOrder .bound hb (fun a => if_pos rfl) fun _ b₁ h₁ => ?_)
  refine tries_bind (advance_inOrder .started h₁ (fun _ => rfl) fun _ b₂ h₂ => ?_)
  exact tries_pure h₂

/-- The channels before `todo` are started, and the others still idle. -/
structure Starting (todo : List VpssChnDesc) (b : Board) : Prop extends b.Quiet where
  pictures : b.Pictures vpssChannels
  stages : ∃ started, vpssChannels = started ++ todo ∧ (∀ d ∈ started, b.stage d.chan = .started) ∧
    ∀ d ∈ todo, b.stage d.chan = .idle

theorem vencSetup_inOrder (bitrate : UInt32 → UInt32 → UInt32 → UInt32) {d : VpssChnDesc}
    {rest : List VpssChnDesc} (hb : Starting (d :: rest) b) :
    InOrder (vencSetup bitrate d) b fun _ => Starting rest := by
  obtain ⟨started, hsplit, hstarted, htodo⟩ := hb.stages
  obtain ⟨hidle, hrest⟩ := List.forall_mem_cons.mp htodo
  have hmem : d ∈ vpssChannels := by
    rw [hsplit]
    exact List.mem_append_right _ List.mem_cons_self
  have hpicture := hb.pictures d hmem
  refine tries_bind ((vencChnSetup_inOrder hb.toQuiet _ hidle hpicture).mono fun _ b₁ h₁ => ?_)
  refine (vencBindAndStart_inOrder h₁).mono fun _ b₂ h₂ => ?_
  -- the other channels have other numbers
  have hdistinct := vpssChannels_distinct
  rw [hsplit, List.map_append, List.map_cons, List.nodup_append, List.nodup_cons] at hdistinct
  obtain ⟨-, ⟨hlater, -⟩, hearlier⟩ := hdistinct
  have hother : ∀ e : VpssChnDesc, e.chan ≠ d.chan → b₂.stage e.chan = b.stage e.chan := by
    intro e he
    rw [h₂.stage, Function.update_of_ne he]
  refine ⟨h₂.toQuiet, ?_, started ++ [d], ?_, ?_, fun e he => ?_⟩
  · unfold Board.Pictures
    rw [h₂.picture]
    exact hb.pictures
  · rw [hsplit, List.append_assoc]
    rfl
  · refine List.forall_mem_append.mpr ⟨fun e he => ?_, List.forall_mem_singleton.mpr h₂.at⟩
    have hne : e.chan ≠ d.chan := hearlier _ (List.mem_map_of_mem he) _ List.mem_cons_self
    rw [hother e hne]
    exact hstarted e he
  · have hne : e.chan ≠ d.chan := fun heq => hlater (heq ▸ List.mem_map_of_mem he)
    rw [hother e hne]
    exact hrest e he

end Encoder

/-! ## main -/

section Main

variable {b : Board}

/-- The board after an open that may have failed. -/
def Board.opened (b : Board) (bad : Bool) : Board := { b with refused := b.refused || bad }

theorem open_inOrder (path : String) {post : Answer → Board → Prop}
    (hpost : ∀ a, post a (b.opened (a.failed && path != "/dev/jpeg"))) :
    InOrder (may (.openDevice path)) b post := by
  refine tries_may (fun a => congrArg some ?_) fun a _ => hpost a
  cases hbad : (a.failed && path != "/dev/jpeg") with
  | true => rw [if_pos rfl, Board.opened, Bool.or_true]
  | false => rw [if_neg Bool.false_ne_true, Board.opened, Bool.or_false]

/-- Where `main` goes on, it has every device but perhaps the JPEG encoder. -/
theorem openDevices_inOrder (hb : b.Quiet) : InOrder openDevices b fun _ => b.Keeps := by
  refine tries_bind (open_inOrder _ fun mp => tries_bind (open_inOrder _ fun isp => ?_))
  refine tries_bind (open_inOrder _ fun enc => tries_bind (open_inOrder _ fun jpeg => ?_))
  refine tries_bind (open_inOrder _ fun vmm => ?_)
  have hmain : ∀ a : Answer, ∀ path : String, path ≠ "/dev/jpeg" →
    (a.failed && path != "/dev/jpeg") = a.failed :=
    fun a path h => by rw [bne_iff_ne.mpr h, Bool.and_true]
  rw [hmain mp _ (by decide), hmain isp _ (by decide), hmain enc _ (by decide),
    hmain vmm _ (by decide), bne_self_eq_false, Bool.and_false]
  cases hbad : (mp.failed || isp.failed || enc.failed || vmm.failed) with
  | true =>
      rw [if_pos rfl]
      exact trivial
  | false =>
      rw [if_neg Bool.false_ne_true]
      simp only [Bool.or_eq_false_iff] at hbad
      obtain ⟨⟨⟨hmp, hisp⟩, henc⟩, hvmm⟩ := hbad
      refine tries_pure ⟨⟨?_, hb.free, hb.frame, hb.mapped⟩, rfl, rfl⟩
      simp only [Board.opened, hb.refused, hmp, hisp, henc, hvmm, Bool.or_self]

theorem applyProcConfig_inOrder (hb : b.Quiet) : InOrder applyProcConfig b fun _ => b.Keeps := by
  refine @tries_forM _ _ _ _ _ _ _ (fun _ => b.Keeps) procConfig b (.refl hb) fun c _ b' hb' => ?_
  refine tries_bind (@tries_may b' _ _ _ (fun _ => b') (fun a => ?_) fun _ _ => tries_pure hb')
  show (if b'.refused then none else some b') = _
  rw [hb'.refused, if_neg Bool.false_ne_true]

theorem must_keeps (hb : b.Quiet) {q : Request}
    (hstep : ∀ a, b.step q a = if b.refused then none else some (b.settle b a)) :
    InOrder (must q) b fun _ => b.Keeps := by
  refine @tries_must b _ _ q (fun _ => b) (fun _ => trivial) (fun a => ?_) fun _ _ _ => .refl hb
  rw [hstep, hb.refused, if_neg Bool.false_ne_true]

theorem vencSysInit_inOrder (hb : b.Quiet) : InOrder vencSysInit b fun _ => b.Keeps :=
  tries_bind (ioctl_plain hb (fun _ => rfl) fun q =>
    vmmAlloc_handOver hb (q.words 0) (ascii "venc-sys") (fun _ _ _ => rfl) fun _ h => h)

/-- The sizes for the picture of the sensor do not wrap. -/
theorem sensor_noWrap : Isp.NoWrap 1920 1080 := by
  show ∀ v ∈ Isp.bufSizeResults 1920 1080, v < 2 ^ 32
  decide

/-- From a quiet board with idle channels, `main` comes to started channels. -/
theorem setup_starts (bitrate : UInt32 → UInt32 → UInt32 → UInt32) (hb : b.Quiet)
    (hidle : ∀ d ∈ vpssChannels, b.stage d.chan = .idle) :
    InOrder (setup bitrate) b fun _ => Starting [] := by
  refine tries_bind ((applyProcConfig_inOrder hb).mono fun _ b₁ h₁ => ?_)
  refine tries_bind ((openDevices_inOrder h₁.toQuiet).mono fun _ b₂ h₂ => ?_)
  refine tries_bind ((must_keeps h₂.toQuiet fun _ => rfl).mono fun _ b₃ h₃ => ?_)
  refine tries_bind ((must_keeps h₃.toQuiet fun _ => rfl).mono fun _ b₄ h₄ => ?_)
  refine tries_bind ((vpssSetup_inOrder h₄.toQuiet).mono fun _ b₅ h₅ => ?_)
  obtain ⟨hquiet, hstage, hpictures⟩ := h₅
  refine tries_bind ((ispSetup_inOrder hquiet sensor_noWrap).mono fun _ b₆ h₆ => ?_)
  refine tries_bind ((vencSysInit_inOrder h₆.toQuiet).mono fun _ b₇ h₇ => ?_)
  have hkeeps := h₆.trans h₇
  have hunmoved : b₇.stage = b.stage :=
    (hkeeps.stage.trans hstage).trans (h₄.stage.trans (h₃.stage.trans (h₂.stage.trans h₁.stage)))
  refine tries_forM ⟨h₇.toQuiet, ?_, [], rfl, nofun, ?_⟩ fun d rest b' hb' =>
    vencSetup_inOrder bitrate hb'
  · unfold Board.Pictures
    rw [hkeeps.picture]
    exact hpictures
  · rw [hunmoved]
    exact hidle

theorem initial_quiet : Board.initial.Quiet := ⟨rfl, rfl, rfl, rfl⟩

end Main

end Streamer
end FH8852
