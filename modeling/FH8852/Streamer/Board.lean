import FH8852.Isp.Pool
import FH8852.Streamer.Setup

/-!
# The rules of the devices

A board keeps what the devices have been told: the blocks of memory that are allocated
and those handed over, and how far each channel of the encoder is.  Its rules say which
requests are in order.
-/

namespace FH8852
namespace Streamer

open CLib Dialogue

/-- A block of physical memory. -/
structure Block where
  phys : UInt32
  size : UInt32
deriving DecidableEq

/-- An address in the block. -/
def Block.holds (k : Block) (w : UInt32) : Bool :=
  decide (k.phys.toNat ≤ w.toNat ∧ w.toNat < k.phys.toNat + k.size.toNat)

/-- How far a channel of the encoder is. -/
inductive Stage where
  | idle
  | created
  | configured
  | rated
  | bound
  | started
deriving DecidableEq

structure Board where
  /-- A request that the program needs has failed. -/
  refused : Bool
  /-- The blocks that are allocated, but not handed over. -/
  free : List Block
  /-- The blocks that are handed over to a device. -/
  given : List Block
  /-- The picture that a channel of the VPU delivers. -/
  picture : UInt32 → Option (UInt32 × UInt32)
  stage : UInt32 → Stage
  /-- The channel of the frame that the program holds. -/
  frame : Option UInt32
  /-- The length of the mapping that the program has. -/
  mapped : Option UInt32

namespace Board

def initial : Board := ⟨false, [], [], fun _ => none, fun _ => .idle, none, none⟩

/-- The board after an answer, where the program needs the request. -/
def settle (b next : Board) (a : Answer) : Board :=
  if a.failed then { b with refused := true } else next

/-- The block goes to a device. -/
def give (b : Board) (k : Block) : Board :=
  { b with free := b.free.erase k, given := b.given ++ [k] }

def setStage (b : Board) (chan : UInt32) (st : Stage) : Board :=
  { b with stage := Function.update b.stage chan st }

/-- The block is to be one that is allocated. -/
def handOver (b : Board) (k : Block) (next : Board → Board) (a : Answer) : Option Board :=
  if k ∈ b.free then some (b.settle (next (b.give k)) a) else none

/-- The channel is to be at a stage and goes to the next. -/
def advance (b : Board) (chan : UInt32) (old new : Stage) (a : Answer) : Option Board :=
  if b.stage chan = old then some (b.settle (b.setStage chan new) a) else none

/-- A frame is asked for when every channel is started and no frame is held. -/
def fetch (b : Board) (a : Answer) : Option Board :=
  if (vpssChannels.all fun d => b.stage d.chan = .started) && b.frame.isNone && b.mapped.isNone then
    some (if a.ret = 0 ∧ a.words 1 = vencStreamH264 then
      { b with frame := some (a.words 3) } else b)
  else none

/-- The `ioctl`s that the program goes on without. -/
def optional : List UInt32 := [ioctlIspGetBufInfo, ioctlIspHandshake, 0x6910]

/-- The board after an `ioctl`, or none where it is out of order. -/
def rule (b : Board) (number : UInt32) (words : List UInt32) (a : Answer) : Option Board :=
  let w := fun i => words.getD i 0
  if number = ioctlVpssSetSysAddr ∨ number = ioctlVencSysSetAddr then b.handOver ⟨w 0, w 2⟩ id a
  else if number = ioctlVpssSetChnAddr then b.handOver ⟨w 1, w 3⟩ id a
  else if number = ioctlIspSetDmaAddrs then
    -- every address is one in the block that was allocated last
    b.free.getLast?.bind fun k =>
      if words.all fun x => x = 0 || k.holds x then b.handOver k id a else none
  else if number = ioctlVpssSetChnAttr then
    some (b.settle { b with picture := Function.update b.picture (w 0) (some (w 1, w 2)) } a)
  else if number = ioctlVencCreateChn then
    if b.stage (w 0) = .idle ∧ b.picture (w 0) = some (w 4, w 5) then
      b.handOver ⟨w 1, w 3⟩ (fun b => b.setStage (w 0) .created) a
    else none
  else if number = ioctlVencSetChnConfig then
    if b.picture (w 0) = some (w 2, w 3) ∧ b.picture (w 0) = some (w 4, w 5) then
      b.advance (w 0) .created .configured a
    else none
  else if number = ioctlVencSetRcAttr then b.advance (w 0) .configured .rated a
  else if number = ioctlMediaBind then
    if words = [mediaObjectVpu, w 1, mediaObjectEnc, w 1] then
      b.advance (w 1) .rated .bound a else none
  else if number = ioctlVencStartRecvPic then b.advance (w 0) .bound .started a
  else if number = ioctlVencGetStream then b.fetch a
  else if number = ioctlVencReleaseStream then
    if b.frame = some (w 0) ∧ b.mapped = none then some { b with frame := none } else none
  else if number = ioctlVencRequestIdr then if b.stage (w 0) = .started then some b else none
  else if number ∈ optional then some b
  else some (b.settle b a)

/-- The board after a request, or none where it is out of order: after a failure the
program uses no device, though it may still open one. -/
def step (b : Board) (q : Request) (a : Answer) : Option Board :=
  match q with
  | .openDevice path =>
      some (if a.failed && path != "/dev/jpeg" then { b with refused := true } else b)
  | .writeProc _ _ => if b.refused then none else some b
  | .vmmAlloc _ size _ =>
    if b.refused then none else some (b.settle { b with free := b.free ++ [⟨a.words 0, size⟩] } a)
  | .ioctl _ number words => if b.refused then none else b.rule number words a
  | .cv2003Init => if b.refused then none else some (b.settle b a)
  | .cv2003SetFormat => if b.refused then none else some (b.settle b a)
  | .ispHwInit _ _ => if b.refused then none else some (b.settle b a)
  | .ispStartProcessing => if b.refused then none else some b
  | .mmap len _ =>
    if b.refused || b.frame.isNone || b.mapped.isSome then none
    else some (if a.failed then b else { b with mapped := some len })
  | .munmap len =>
    if b.refused || b.mapped != some len then none else some { b with mapped := none }
  | .writeStdout _ => if b.refused || b.mapped.isNone then none else some b

end Board

/-- The allocator of the kernel is trusted not to hand out a block that wraps. -/
def trusted : Request → Answer → Prop
  | .vmmAlloc _ size _, a => a.failed = false → (a.words 0).toNat + size.toNat < 2 ^ 32
  | _, _ => True

def rules : Monitor Request Answer Board := ⟨trusted, Board.step⟩

/-! ## What a request does to the board -/

/-- Nothing has failed, every block that is allocated is handed over, and no frame and
no mapping is held. -/
structure Board.Quiet (b : Board) : Prop where
  refused : b.refused = false
  free : b.free = []
  frame : b.frame = none
  mapped : b.mapped = none

section Requests

variable {b : Board} {post : Answer → Board → Prop} {gaveUp : Board → Prop}

/-- A needed request, from its rule. -/
theorem tries_must {q : Request} {next : Answer → Board} (hgaveUp : ∀ b, gaveUp b)
    (hstep : ∀ a, b.step q a = some (b.settle (next a) a))
    (hpost : ∀ a, a.failed = false → trusted q a → post a (next a)) :
    Tries rules gaveUp (must q) b post := by
  refine tries_checked fun a ha => ⟨_, hstep a, ?_⟩
  cases hfailed : a.failed with
  | true =>
      rw [if_pos rfl]
      exact hgaveUp _
  | false =>
      rw [if_neg Bool.false_ne_true, Board.settle, hfailed, if_neg Bool.false_ne_true]
      exact hpost a hfailed ha

/-- A request that only has to be answered. -/
theorem tries_may {q : Request} {next : Answer → Board} (hstep : ∀ a, b.step q a = some (next a))
    (hpost : ∀ a, trusted q a → post a (next a)) : Tries rules gaveUp (may q) b post :=
  tries_request fun a ha => ⟨_, hstep a, hpost a ha⟩

end Requests

/-! ## Where the blocks are -/

/-- The block that a request is answered with. -/
def granted (x : Request × Answer) : List Block :=
  match x.1 with
  | .vmmAlloc _ size _ => if x.2.failed then [] else [⟨x.2.words 0, size⟩]
  | _ => []

namespace Board

/-- The blocks on the board. -/
def blocks (b : Board) : List Block := b.free ++ b.given

theorem give_blocks {b : Board} {k : Block} (h : k ∈ b.free) : (b.give k).blocks.Perm b.blocks := by
  have hmove : (b.free.erase k ++ (b.given ++ [k])).Perm (k :: b.free.erase k ++ b.given) := by
    rw [← List.append_assoc]
    exact List.perm_append_comm
  exact hmove.trans ((List.perm_cons_erase h).symm.append_right _)

/-- The step keeps the blocks, unless it is out of order. -/
def SameBlocks (b : Board) (o : Option Board) : Prop := ∀ b', o = some b' → b'.blocks.Perm b.blocks

section SameBlocks

variable {b : Board}

theorem sameBlocks_none : b.SameBlocks none := nofun

theorem sameBlocks_some {next : Board} (h : next.blocks.Perm b.blocks) : b.SameBlocks (some next) :=
  fun _ heq => Option.some.inj heq ▸ h

theorem sameBlocks_ite {p : Prop} [Decidable p] {x y : Option Board} (hx : b.SameBlocks x)
    (hy : b.SameBlocks y) :
    b.SameBlocks (if p then x else y) := by
  split
  · exact hx
  · exact hy

theorem sameBlocks_settle {next : Board} (h : next.blocks.Perm b.blocks) (a : Answer) :
    b.SameBlocks (some (b.settle next a)) := by
  refine sameBlocks_some ?_
  unfold settle
  split
  · exact List.Perm.refl _
  · exact h

theorem sameBlocks_handOver {k : Block} {next : Board → Board} {a : Answer}
    (hnext : ∀ b : Board, (next b).blocks.Perm b.blocks) : b.SameBlocks (b.handOver k next a) := by
  by_cases hmem : k ∈ b.free
  · rw [handOver, if_pos hmem]
    exact sameBlocks_settle ((hnext _).trans (give_blocks hmem)) a
  · rw [handOver, if_neg hmem]
    exact sameBlocks_none

theorem sameBlocks_advance {chan : UInt32} {old new : Stage} {a : Answer} :
    b.SameBlocks (b.advance chan old new a) :=
  sameBlocks_ite (@sameBlocks_settle b (b.setStage chan new) (List.Perm.refl _) a) sameBlocks_none

theorem sameBlocks_fetch {a : Answer} : b.SameBlocks (b.fetch a) := by
  refine sameBlocks_ite (sameBlocks_some ?_) sameBlocks_none
  split
  · exact List.Perm.refl _
  · exact List.Perm.refl _

/-- An `ioctl` moves blocks, but makes and loses none. -/
theorem rule_blocks (number : UInt32) (words : List UInt32) (a : Answer) :
    b.SameBlocks (b.rule number words a) := by
  have hsame : ∀ b : Board, b.blocks.Perm b.blocks := fun _ => List.Perm.refl _
  unfold rule
  refine sameBlocks_ite (sameBlocks_handOver hsame) ?_
  refine sameBlocks_ite (sameBlocks_handOver hsame) ?_
  refine sameBlocks_ite ?_ ?_
  · intro b' h
    obtain ⟨k, -, h⟩ := Option.bind_eq_some_iff.mp h
    exact sameBlocks_ite (sameBlocks_handOver hsame) sameBlocks_none b' h
  refine sameBlocks_ite (sameBlocks_settle ?_ a) ?_
  · exact hsame b
  refine sameBlocks_ite (sameBlocks_ite (sameBlocks_handOver fun b => ?_) sameBlocks_none) ?_
  · exact hsame b
  refine sameBlocks_ite (sameBlocks_ite sameBlocks_advance sameBlocks_none) ?_
  refine sameBlocks_ite sameBlocks_advance ?_
  refine sameBlocks_ite (sameBlocks_ite sameBlocks_advance sameBlocks_none) ?_
  refine sameBlocks_ite sameBlocks_advance ?_
  refine sameBlocks_ite sameBlocks_fetch ?_
  refine sameBlocks_ite (sameBlocks_ite (sameBlocks_some (hsame b)) sameBlocks_none) ?_
  refine sameBlocks_ite (sameBlocks_ite (sameBlocks_some (hsame b)) sameBlocks_none) ?_
  exact sameBlocks_ite (sameBlocks_some (hsame b)) (sameBlocks_settle (hsame b) a)

end SameBlocks

/-- A request adds the block that it is answered with. -/
theorem step_blocks {b b' : Board} {q : Request} {a : Answer} (h : b.step q a = some b') :
    b'.blocks.Perm (b.blocks ++ granted (q, a)) := by
  have hkept : b.SameBlocks (b.step q a) → b'.blocks.Perm (b.blocks ++ []) := by
    intro hsame
    rw [List.append_nil]
    exact hsame b' h
  have hself : b.SameBlocks (some b) := sameBlocks_some (List.Perm.refl _)
  have hneeded : b.SameBlocks (some (b.settle b a)) := sameBlocks_settle (List.Perm.refl _) a
  cases q with
  | openDevice path =>
      refine hkept (sameBlocks_some ?_)
      split
      · exact List.Perm.refl _
      · exact List.Perm.refl _
  | vmmAlloc align size name =>
      change (if b.refused then none else some _) = some b' at h
      by_cases hb : b.refused
      · rw [if_pos hb] at h
        exact nomatch h
      rw [if_neg hb, Option.some.injEq] at h
      subst h
      unfold settle granted
      dsimp only
      split
      · rw [List.append_nil]
        exact List.Perm.refl _
      · show (b.free ++ [_] ++ b.given).Perm (b.free ++ b.given ++ [_])
        rw [List.append_assoc, List.append_assoc]
        exact List.Perm.append_left _ List.perm_append_comm
  | writeProc path value => exact hkept (sameBlocks_ite sameBlocks_none hself)
  | ioctl dev number words =>
      exact hkept (sameBlocks_ite sameBlocks_none (rule_blocks number words a))
  | cv2003Init => exact hkept (sameBlocks_ite sameBlocks_none hneeded)
  | cv2003SetFormat => exact hkept (sameBlocks_ite sameBlocks_none hneeded)
  | ispHwInit width height => exact hkept (sameBlocks_ite sameBlocks_none hneeded)
  | ispStartProcessing => exact hkept (sameBlocks_ite sameBlocks_none hself)
  | mmap len offset =>
      refine hkept (sameBlocks_ite sameBlocks_none (sameBlocks_some ?_))
      split
      · exact List.Perm.refl _
      · exact List.Perm.refl _
  | munmap len =>
      have hnext : b.SameBlocks (some { b with mapped := none }) :=
        sameBlocks_some (List.Perm.refl _)
      exact hkept (sameBlocks_ite sameBlocks_none hnext)
  | writeStdout bytes => exact hkept (sameBlocks_ite sameBlocks_none hself)

/-- On a watched run, every block that was granted is on the board. -/
theorem watch_blocks {b b' : Board} {l : List (Request × Answer)} (h : rules.watch b l = some b') :
    b'.blocks.Perm (b.blocks ++ l.flatMap granted) := by
  induction l generalizing b with
  | nil =>
      obtain rfl := Option.some.inj h
      rw [List.flatMap_nil, List.append_nil]
  | cons x l ih =>
      obtain ⟨b₁, hstep, hrest⟩ := Option.bind_eq_some_iff.mp h
      rw [List.flatMap_cons, ← List.append_assoc]
      exact (ih hrest).trans ((step_blocks hstep).append_right _)

end Board

end Streamer
end FH8852
