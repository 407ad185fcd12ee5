import FH8852.Rtsp.KeyFrames
import FH8852.Streamer.Start

/-!
# The loop of `mini_streamer.c`

`main` with its loop, request by request.  In each turn the server is polled, and one
frame is taken from the encoder, mapped NAL by NAL and pushed to the server.
-/

namespace FH8852
namespace Streamer

open CLib Rtsp Dialogue

/-! ## The requests of the loop -/

/-- What the clients do in a turn, and how they take what they are sent. -/
structure TurnIo where
  poll : PollIo
  answers : (round : Nat) → Slot → Nat → List SendResult

def vencRequestIdr (streamId : Nat) : Try PUnit := do
  let _ ← may (.ioctl .enc ioctlVencRequestIdr [UInt32.ofNat streamId])

/-- `rtsp_server_poll` with its callback. -/
def pollServer (srv : RtspServer) (io : PollIo) : Try RtspServer := do
  (idrCalls (rtspServerPoll srv io).2).forM vencRequestIdr
  pure (rtspServerPoll srv io).1

def writeStdout (bytes : Bytes) : Try PUnit := do
  let _ ← may (.writeStdout bytes)

/-- A round of the loop of `venc_get_stream`. -/
def streamRound (st : Nat → UInt32) (answers : Nat → Slot → Nat → List SendResult)
    (srv : RtspServer) (i : Nat) : Try RtspServer :=
  let phys := st (vencStreamNaluWord + i * 4 + 1)
  let len := st (vencStreamNaluWord + i * 4 + 3)
  let pageOff := phys &&& 0xfff
  if len = 0 then pure srv
  else do
    let map ← may (.mmap (len + pageOff) (phys &&& ~~~0xfff))
    if map.failed then pure srv
    else
      let bytes := (List.range len.toNat).map fun j => map.mem (pageOff.toNat + j)
      if chan st = 0 then writeStdout bytes
      let pushed := rtspServerPushNal srv (pushOf st i bytes) (answers i)
      let _ ← may (.munmap (len + pageOff))
      pure pushed.1

/-- `venc_get_stream` with its requests. -/
def requestStream (answers : Nat → Slot → Nat → List SendResult) (srv : RtspServer) :
    Try RtspServer := do
  let got ← may (.ioctl .mediaProcess ioctlVencGetStream (vencStreamH264 :: List.replicate 103 0))
  if got.ret ≠ 0 ∨ got.words 1 ≠ vencStreamH264 then pure srv
  else
    let srv ← (List.range (naluCount got.words)).foldlM (streamRound got.words answers) srv
    let _ ← may (.ioctl .enc ioctlVencReleaseStream [chan got.words])
    pure srv

def mainTurn (srv : RtspServer) (io : TurnIo) : Try RtspServer := do
  let srv ← pollServer srv io.poll
  requestStream io.answers srv

/-- The loop of `main`, for as many turns as it runs. -/
def mainLoop (ios : List TurnIo) (srv : RtspServer) : Try RtspServer := ios.foldlM mainTurn srv

/-- How `main` configures the server; `credentials` are those in the environment. -/
def configure (credentials : Option (Bytes × Bytes)) : List Event :=
  (vpssChannels.map fun d => .enableStream d.chan.toNat vencFps) ++
    [.onIdrRequest true,
      credentials.elim (.useShadow (ascii "/etc/shadow")) fun c => .setCredentials c.1 c.2]

def streamServer (io : InitIo) (credentials : Option (Bytes × Bytes)) : RtspServer :=
  (run (initialServer io) (configure credentials)).1

def main (bitrate : UInt32 → UInt32 → UInt32 → UInt32) (io : InitIo)
    (credentials : Option (Bytes × Bytes)) (ios : List TurnIo) : Try RtspServer := do
  setup bitrate
  if (rtspServerInit io).1 < 0 then failure
  else mainLoop ios (streamServer io credentials)

/-! ## What is seen of a run -/

/-- What a request shows: a key frame that is asked of a channel, the answer to
`GET_STREAM`, the memory behind a mapping, and what goes to the standard output. -/
inductive Sight where
  | idr (chan : UInt32)
  | frame (st : Option (Nat → UInt32))
  | mapping (mem : Option (Nat → UInt8))
  | stdout (bytes : Bytes)

def sight (x : Request × Answer) : Option Sight :=
  match x.1 with
  | .ioctl _ number words =>
    if number = ioctlVencRequestIdr then some (.idr (words.getD 0 0))
    else if number = ioctlVencGetStream then
      some (.frame (if x.2.ret = 0 then some x.2.words else none))
    else none
  | .mmap _ _ => some (.mapping (if x.2.failed then none else some x.2.mem))
  | .writeStdout bytes => some (.stdout bytes)
  | _ => none

def sights (l : List (Request × Answer)) : List Sight := l.filterMap sight

/-- The calls of the server that a frame leads to. -/
def streamEvents (io : StreamIo) : List Event :=
  io.st.elim [] fun st => if st 1 = vencStreamH264 then frameEvents io st else []

/-- What round `i` shows. -/
def roundSights (io : StreamIo) (st : Nat → UInt32) (i : Nat) : List Sight :=
  if st (vencStreamNaluWord + i * 4 + 3) = 0 then []
  else .mapping (io.mmap i) ::
    if chan st = 0 then ((entryBytes io st i).map Sight.stdout).toList else []

def streamSights (io : StreamIo) : List Sight :=
  .frame io.st :: io.st.elim [] fun st =>
    if st 1 = vencStreamH264 then (List.range (naluCount st)).flatMap (roundSights io st) else []

/-- The model of `venc_get_stream` as a run of the server. -/
theorem vencGetStream_events (srv : RtspServer) (io : StreamIo) :
    (vencGetStream srv io).server = (run srv (streamEvents io)).1 := by
  unfold vencGetStream streamEvents
  cases io.st with
  | none => rfl
  | some st =>
      by_cases htype : st 1 = vencStreamH264
      · simp only [ne_eq, htype, not_true, if_false, Option.elim_some, if_true]
      · simp only [ne_eq, htype, not_false_iff, if_true, Option.elim_some, if_false, run]

/-- A turn of the loop: what the clients do and what the encoder does. -/
structure Turn where
  io : TurnIo
  stream : StreamIo
  answers : stream.answers = io.answers

namespace Turn

/-- The calls of the server in the turn. -/
def events (t : Turn) : List Event := .poll t.io.poll :: streamEvents t.stream

/-- The turn from outside: a key frame is asked for every PLAY that is answered 200, and
a frame is taken. -/
def sights (srv : RtspServer) (t : Turn) : List Sight :=
  (playedStreams (rtspServerPoll srv t.io.poll).2).map (fun s => Sight.idr (UInt32.ofNat s)) ++
    streamSights t.stream

end Turn

/-- The turns from outside. -/
def loopSights : RtspServer → List Turn → List Sight
  | _, [] => []
  | srv, t :: turns => t.sights srv ++ loopSights (run srv t.events).1 turns

/-! ## The rules of the loop -/

/-- The board of a running pipeline. -/
structure Board.Ready (b : Board) : Prop extends b.Quiet where
  started : ∀ d ∈ vpssChannels, b.stage d.chan = .started

/-- The board while the program holds a frame. -/
def Board.hold (b : Board) (chan : UInt32) : Board := { b with frame := some chan }

/-- The rules, with a record of the requests. -/
def recording : Monitor Request Answer (Board × List (Request × Answer)) :=
  Monitor.recorded ⟨fun _ _ => True, Board.step⟩

/-- An attempt that does not give up. -/
abbrev Goes {α : Type} (p : Try α) (b : Board) (seen : List (Request × Answer))
    (post : α → Board × List (Request × Answer) → Prop) : Prop :=
  Tries recording (fun _ => False) p (b, seen) post

/-- What the requests since `seen` show. -/
def Shows (seen seen' : List (Request × Answer)) (shown : List Sight) : Prop :=
  sights seen' = sights seen ++ shown

section Requests

variable {b : Board} {seen seen' seen'' : List (Request × Answer)} {shown shown' : List Sight}

theorem Shows.refl (seen : List (Request × Answer)) : Shows seen seen [] := (List.append_nil _).symm

theorem Shows.trans (h : Shows seen seen' shown) (h' : Shows seen' seen'' shown') :
    Shows seen seen'' (shown ++ shown') := by
  unfold Shows at *
  rw [h', h, List.append_assoc]

/-- One request more. -/
theorem Shows.snoc (h : Shows seen seen' shown) (x : Request × Answer) :
    Shows seen (seen' ++ [x]) (shown ++ (sight x).toList) := by
  refine h.trans ?_
  unfold Shows sights
  rw [List.filterMap_append, List.filterMap_cons]
  cases sight x with
  | none => rfl
  | some s => rfl

/-- A request that shows nothing. -/
theorem Shows.quiet (h : Shows seen seen' shown) {x : Request × Answer} (hx : sight x = none) :
    Shows seen (seen' ++ [x]) shown := by
  have hsnoc := h.snoc x
  rw [hx, Option.toList_none, List.append_nil] at hsnoc
  exact hsnoc

theorem may_goes {q : Request} (next : Answer → Board)
    {post : Answer → Board × List (Request × Answer) → Prop}
    (hstep : ∀ a, b.step q a = some (next a))
    (hpost : ∀ a, post a (next a, seen ++ [(q, a)])) : Goes (may q) b seen post := by
  refine tries_request fun a _ => ⟨_, ?_, hpost a⟩
  show Option.map _ (b.step q a) = _
  rw [hstep]
  exact rfl

end Requests

/-! ## Polling the server -/

section Poll

variable {b : Board} {srv : RtspServer} {seen : List (Request × Answer)}

/-- Every stream of the server has a channel that is started. -/
theorem Board.Ready.stream (hb : b.Ready) {s : Nat} (hs : s < rtspStreamCount) :
    b.stage (UInt32.ofNat s) = .started := by
  have hchannel : ∀ s < rtspStreamCount, ∃ d ∈ vpssChannels, d.chan = UInt32.ofNat s := by
    simp only [vpssChannels, List.exists_mem_cons_iff]
    decide
  obtain ⟨d, hd, hchan⟩ := hchannel s hs
  rw [← hchan]
  exact hb.started d hd

theorem vencRequestIdr_goes (hb : b.Ready) {s : Nat} (hs : s < rtspStreamCount) :
    Goes (vencRequestIdr s) b seen fun _ t => t.1 = b ∧ Shows seen t.2 [.idr (UInt32.ofNat s)] := by
  refine tries_bind (may_goes (fun _ => b) (fun _ => ?_) fun a =>
    tries_pure ⟨rfl, (Shows.refl seen).snoc _⟩)
  show (if b.refused then none else if b.stage (UInt32.ofNat s) = .started then some b else none) =
    some b
  rw [hb.refused, if_neg Bool.false_ne_true, if_pos (hb.stream hs)]

/-- A poll asks for a key frame for every PLAY, and for nothing else. -/
theorem pollServer_goes (hb : b.Ready) (hsrv : Serving srv) (io : PollIo) :
    Goes (pollServer srv io) b seen fun srv' t => t.1 = b ∧ srv' = (rtspServerPoll srv io).1 ∧
      Shows seen t.2 ((playedStreams (rtspServerPoll srv io).2).map fun s =>
        .idr (UInt32.ofNat s)) := by
  have hcalls : idrCalls (rtspServerPoll srv io).2 = playedStreams (rtspServerPoll srv io).2 :=
    @Serving.idrCalls srv (.poll io) hsrv
  have hstreams : ∀ s ∈ playedStreams (rtspServerPoll srv io).2, s < rtspStreamCount :=
    fun s hs => @Serving.playedStreams_lt srv (.poll io) hsrv s hs
  unfold pollServer
  rw [hcalls]
  generalize playedStreams (rtspServerPoll srv io).2 = streams at hstreams
  refine tries_bind
    (Tries.mono (@tries_forM _ _ _ _ _ _ _ (fun rest t => ∃ asked, streams = asked ++ rest ∧
    t.1 = b ∧ Shows seen t.2 (asked.map fun s => .idr (UInt32.ofNat s))) streams _ ?_ ?_) ?_)
  · exact ⟨[], rfl, rfl, .refl seen⟩
  · intro s rest t ht
    obtain ⟨asked, hsplit, hboard, hshows⟩ := ht
    obtain ⟨b', seen'⟩ := t
    obtain rfl : b' = b := hboard
    have hs : s ∈ streams := by
      rw [hsplit]
      exact List.mem_append_right _ List.mem_cons_self
    refine (vencRequestIdr_goes hb (hstreams s hs)).mono fun _ t' ht' =>
      ⟨asked ++ [s], ?_, ht'.1, ?_⟩
    · rw [hsplit, List.append_assoc]
      rfl
    · rw [List.map_append]
      exact hshows.trans ht'.2
  · intro _ t ht
    obtain ⟨asked, hsplit, hboard, hshows⟩ := ht
    rw [List.append_nil] at hsplit
    rw [hsplit]
    exact tries_pure ⟨hboard, rfl, hshows⟩

end Poll

/-! ## Taking a frame -/

section Frame

variable {b : Board} {st : Nat → UInt32} {answers : Nat → Slot → Nat → List SendResult}
  {srv : RtspServer}
  {seen : List (Request × Answer)}

/-- What the world does in a frame, by its mappings. -/
def frameIo (st : Nat → UInt32) (answers : Nat → Slot → Nat → List SendResult)
    (mmap : Nat → Option (Nat → UInt8)) : StreamIo := ⟨some st, mmap, answers⟩

theorem entryBytes_congr {io io' : StreamIo} {i : Nat} (h : io.mmap i = io'.mmap i) :
    entryBytes io st i = entryBytes io' st i := by
  unfold entryBytes
  rw [h]

theorem roundEvent_congr {io io' : StreamIo} {i : Nat} (h : io.mmap i = io'.mmap i)
    (hanswers : io.answers = io'.answers) : roundEvent io st i = roundEvent io' st i := by
  unfold roundEvent
  rw [entryBytes_congr h, hanswers]

/-- The rounds `rounds` of a frame, seen from outside. -/
structure Streams (st : Nat → UInt32) (answers : Nat → Slot → Nat → List SendResult)
    (srv : RtspServer)
    (seen : List (Request × Answer)) (mmap : Nat → Option (Nat → UInt8)) (rounds : List Nat)
    (srv' : RtspServer) (seen' : List (Request × Answer)) : Prop where
  server : srv' = (run srv (rounds.filterMap (roundEvent (frameIo st answers mmap) st))).1
  shows : Shows seen seen' (rounds.flatMap (roundSights (frameIo st answers mmap) st))

theorem Streams.append {mmap : Nat → Option (Nat → UInt8)} {rounds rounds' : List Nat}
    {srv' srv'' : RtspServer} {seen' seen'' : List (Request × Answer)}
    (h : Streams st answers srv seen mmap rounds srv' seen')
    (h' : Streams st answers srv' seen' mmap rounds' srv'' seen'') :
    Streams st answers srv seen mmap (rounds ++ rounds') srv'' seen'' := by
  refine ⟨?_, ?_⟩
  · rw [List.filterMap_append, run_append, ← h.server]
    exact h'.server
  · rw [List.flatMap_append]
    exact h.shows.trans h'.shows

/-- Only the mappings of the rounds themselves matter. -/
theorem Streams.congr {mmap mmap' : Nat → Option (Nat → UInt8)} {rounds : List Nat}
    {srv' : RtspServer}
    {seen' : List (Request × Answer)} (h : Streams st answers srv seen mmap rounds srv' seen')
    (hsame : ∀ i ∈ rounds, mmap i = mmap' i) :
      Streams st answers srv seen mmap' rounds srv' seen' := by
  have hevents : rounds.filterMap (roundEvent (frameIo st answers mmap) st) =
      rounds.filterMap (roundEvent (frameIo st answers mmap') st) :=
    List.filterMap_congr fun i hi => roundEvent_congr (hsame i hi) rfl
  have hsights : rounds.flatMap (roundSights (frameIo st answers mmap) st) =
      rounds.flatMap (roundSights (frameIo st answers mmap') st) := by
    refine List.flatMap_congr fun i hi => ?_
    have hmap : (frameIo st answers mmap).mmap i = (frameIo st answers mmap').mmap i := hsame i hi
    unfold roundSights
    rw [hmap, entryBytes_congr hmap]
  exact ⟨hevents ▸ h.server, hsights ▸ h.shows⟩

/-- A round without bytes does nothing. -/
theorem Streams.silent {mmap : Nat → Option (Nat → UInt8)} {i : Nat}
    {seen' : List (Request × Answer)} (hbytes : entryBytes (frameIo st answers mmap) st i = none)
    (hshows : Shows seen seen' (roundSights (frameIo st answers mmap) st i)) :
    Streams st answers srv seen mmap [i] srv seen' := by
  have hevent : roundEvent (frameIo st answers mmap) st i = none := by
    rw [roundEvent, hbytes]
    rfl
  refine ⟨?_, ?_⟩
  · rw [List.filterMap_cons_none hevent]
    rfl
  · rw [List.flatMap_singleton]
    exact hshows

/-- A round with bytes pushes them. -/
theorem Streams.push {mmap : Nat → Option (Nat → UInt8)} {i : Nat} {bytes : Bytes}
    {seen' : List (Request × Answer)}
      (hbytes : entryBytes (frameIo st answers mmap) st i = some bytes)
    (hshows : Shows seen seen' (roundSights (frameIo st answers mmap) st i)) :
    Streams st answers srv seen mmap [i]
      (rtspServerPushNal srv (pushOf st i bytes) (answers i)).1 seen' := by
  have hevent : roundEvent (frameIo st answers mmap) st i =
      some (.pushNal (pushOf st i bytes) (answers i)) := by
    rw [roundEvent, hbytes]
    rfl
  refine ⟨?_, ?_⟩
  · rw [List.filterMap_cons_some hevent]
    rfl
  · rw [List.flatMap_singleton]
    exact hshows

/-- A mapping is unmapped in the round that makes it. -/
theorem streamRound_goes (hb : b.Quiet) (i : Nat) :
    Goes (streamRound st answers srv i) (b.hold (chan st)) seen fun srv' t =>
      t.1 = b.hold (chan st) ∧ ∃ map, Streams st answers srv seen (fun _ => map) [i] srv' t.2 := by
  unfold streamRound
  dsimp only
  generalize hphys : st (vencStreamNaluWord + i * 4 + 1) = phys
  generalize hlen : st (vencStreamNaluWord + i * 4 + 3) = len
  have hentry : ∀ map : Option (Nat → UInt8), entryBytes (frameIo st answers fun _ => map) st i =
      if len = 0 then none else map.map fun map =>
        (List.range len.toNat).map fun j => map ((phys &&& 0xfff).toNat + j) := by
    intro map
    unfold entryBytes
    rw [hphys, hlen]
    rfl
  have hsights : ∀ map : Option (Nat → UInt8), roundSights (frameIo st answers fun _ => map) st i =
      if len = 0 then [] else .mapping map :: if chan st = 0 then
        ((entryBytes (frameIo st answers fun _ => map) st i).map Sight.stdout).toList else [] := by
    intro map
    unfold roundSights
    rw [hlen]
    rfl
  by_cases hzero : len = 0
  · rw [if_pos hzero]
    refine tries_pure ⟨rfl, none, Streams.silent ?_ ?_⟩
    · rw [hentry, if_pos hzero]
    · rw [hsights, if_pos hzero]
      exact .refl seen
  rw [if_neg hzero]
  refine tries_bind (may_goes (fun a => if a.failed then b.hold (chan st) else
    { b.hold (chan st) with mapped := some (len + (phys &&& 0xfff)) }) (fun a => ?_) fun a => ?_)
  · show (if b.refused || false || b.mapped.isSome then none else some _) = _
    rw [hb.refused, hb.mapped]
    exact rfl
  have hshown := (Shows.refl seen).snoc (.mmap (len + (phys &&& 0xfff)) (phys &&& ~~~0xfff), a)
  change Shows seen _ [.mapping (if a.failed then none else some a.mem)] at hshown
  by_cases hfailed : a.failed = true
  · rw [if_pos hfailed] at hshown
    have hnone : entryBytes (frameIo st answers fun _ => none) st i = none := by
      rw [hentry, if_neg hzero]
      exact rfl
    rw [if_pos hfailed, if_pos hfailed]
    refine tries_pure ⟨rfl, none, Streams.silent hnone ?_⟩
    rw [hsights, if_neg hzero, hnone, Option.map_none, Option.toList_none, ite_self]
    exact hshown
  rw [if_neg hfailed] at hshown
  rw [if_neg hfailed, if_neg hfailed]
  generalize hbytes : ((List.range len.toNat).map fun j => a.mem ((phys &&& 0xfff).toNat + j)) =
    bytes
  have hread : entryBytes (frameIo st answers fun _ => some a.mem) st i = some bytes := by
    rw [hentry, if_neg hzero, Option.map_some, hbytes]
  have hround : roundSights (frameIo st answers fun _ => some a.mem) st i =
      .mapping (some a.mem) :: if chan st = 0 then [.stdout bytes] else [] := by
    rw [hsights, if_neg hzero, hread]
    exact rfl
  -- the rest of the round, behind the standard output
  have hrest : ∀ seen',
    Shows seen seen' (roundSights (frameIo st answers fun _ => some a.mem) st i) →
      Goes (do
        let _ ← may (.munmap (len + (phys &&& 0xfff)))
        pure (rtspServerPushNal srv (pushOf st i bytes) (answers i)).1)
        { b.hold (chan st) with mapped := some (len + (phys &&& 0xfff)) } seen' fun srv' t =>
          t.1 = b.hold (chan st) ∧
            ∃ map, Streams st answers srv seen (fun _ => map) [i] srv' t.2 := by
    intro seen' hseen'
    refine tries_bind (may_goes (fun _ => b.hold (chan st)) (fun _ => ?_) fun _ => ?_)
    · show (if b.refused || some (len + (phys &&& 0xfff)) != some (len + (phys &&& 0xfff)) then none
        else some { b.hold (chan st) with mapped := none }) = _
      rw [hb.refused, bne_self_eq_false, Board.hold, hb.mapped]
      exact rfl
    · exact tries_pure ⟨rfl, some a.mem, Streams.push hread (hseen'.quiet rfl)⟩
  rw [hround] at hrest
  by_cases hchan : chan st = 0
  · rw [if_pos hchan] at hrest ⊢
    refine tries_bind
      (may_goes (fun _ => { b.hold (chan st) with mapped := some (len + (phys &&& 0xfff)) })
        (fun _ => ?_) fun _ => ?_)
    · show (if b.refused || false then none else some _) = _
      rw [hb.refused]
      exact rfl
    · exact hrest _ (hshown.snoc _)
  · rw [if_neg hchan] at hrest ⊢
    exact hrest _ hshown

theorem streamRounds_goes (hb : b.Quiet) (n : Nat) :
    Goes ((List.range n).foldlM (streamRound st answers) srv) (b.hold (chan st)) seen fun srv' t =>
      t.1 = b.hold (chan st) ∧
        ∃ mmap, Streams st answers srv seen mmap (List.range n) srv' t.2 := by
  refine Tries.mono (@tries_foldlM _ _ _ _ _ _ _ (streamRound st answers) (fun rest srv' t =>
    t.1 = b.hold (chan st) ∧ ∃ done mmap, List.range n = done ++ rest ∧
      Streams st answers srv seen mmap done srv' t.2) _ _ _ ?_ ?_) ?_
  · exact ⟨rfl, [], fun _ => none, rfl, rfl, .refl seen⟩
  · intro i rest srv' t ht
    obtain ⟨hboard, done, mmap, hsplit, hdone⟩ := ht
    obtain ⟨b', seen'⟩ := t
    obtain rfl : b' = b.hold (chan st) := hboard
    refine (streamRound_goes hb i).mono fun srv'' t' ht' => ?_
    obtain ⟨hboard', map, hround⟩ := ht'
    refine ⟨hboard', done ++ [i], Function.update mmap i map, ?_, ?_⟩
    · rw [hsplit, List.append_assoc]
      rfl
    -- the rounds before had other numbers
    have hnew : i ∉ done := by
      have hdistinct := @List.nodup_range n
      rw [hsplit, List.nodup_append] at hdistinct
      exact fun hmem => hdistinct.2.2 i hmem i List.mem_cons_self rfl
    refine Streams.append (hdone.congr fun j hj => ?_) (hround.congr fun j hj => ?_)
    · rw [Function.update_of_ne (ne_of_mem_of_not_mem hj hnew)]
    · rw [List.mem_singleton.mp hj, Function.update_self]
  · intro srv' t ht
    obtain ⟨hboard, done, mmap, hsplit, hdone⟩ := ht
    rw [List.append_nil] at hsplit
    exact ⟨hboard, mmap, hsplit ▸ hdone⟩

/-- A frame that is taken is given back, and the server gets what the model of
`venc_get_stream` says. -/
theorem requestStream_goes (hb : b.Ready) :
    Goes (requestStream answers srv) b seen fun srv' t => t.1 = b ∧
      ∃ io : StreamIo, io.answers = answers ∧
      srv' = (vencGetStream srv io).server ∧ Shows seen t.2 (streamSights io) := by
  have hfetch : ∀ a,
    b.step (.ioctl .mediaProcess ioctlVencGetStream (vencStreamH264 :: List.replicate 103 0)) a =
      some (if a.ret = 0 ∧ a.words 1 = vencStreamH264 then b.hold (chan a.words) else b) := by
    intro a
    show (if b.refused then none else b.fetch a) = _
    have hall : (vpssChannels.all fun d => b.stage d.chan = .started) = true := by
      simp only [List.all_eq_true, decide_eq_true_eq]
      exact hb.started
    have hframe : b.frame.isNone = true := Option.isNone_iff_eq_none.mpr hb.frame
    have hmapped : b.mapped.isNone = true := Option.isNone_iff_eq_none.mpr hb.mapped
    rw [hb.refused, if_neg Bool.false_ne_true, Board.fetch, hall, hframe, hmapped]
    exact rfl
  refine tries_bind (may_goes _ hfetch fun got => ?_)
  have hasked := (Shows.refl seen).snoc
    (.ioctl .mediaProcess ioctlVencGetStream (vencStreamH264 :: List.replicate 103 0), got)
  change Shows seen _ [.frame (if got.ret = 0 then some got.words else none)] at hasked
  by_cases hgot : got.ret = 0 ∧ got.words 1 = vencStreamH264
  · rw [if_pos hgot,
      if_neg (by rw [hgot.1, hgot.2]; exact fun h => h.elim (absurd rfl) (absurd rfl))]
    refine tries_bind ((streamRounds_goes hb.toQuiet _).mono fun srv' t ht => ?_)
    obtain ⟨hboard, mmap, hstream⟩ := ht
    obtain ⟨b', seen'⟩ := t
    obtain rfl : b' = b.hold (chan got.words) := hboard
    refine tries_bind (may_goes (fun _ => b) (fun a => ?_) fun a => tries_pure ⟨rfl, ?_⟩)
    · have hback : { b with frame := none } = b :=
        congrArg (fun f => { b with frame := f }) hb.frame.symm
      have hrefused : ¬ b.refused = true := by
        rw [hb.refused]
        exact Bool.false_ne_true
      exact (if_neg hrefused).trans ((if_pos ⟨rfl, hb.mapped⟩).trans (congrArg some hback))
    · rw [if_pos hgot.1] at hasked
      refine ⟨frameIo got.words answers mmap, rfl, ?_, ?_⟩
      · rw [vencGetStream_events, hstream.server, streamEvents, frameIo,
          Option.elim_some, if_pos hgot.2]
        exact rfl
      · rw [streamSights, frameIo, Option.elim_some, if_pos hgot.2]
        exact (hasked.trans hstream.shows).quiet rfl
  · rw [if_neg hgot, if_pos (not_and_or.mp hgot)]
    by_cases hret : got.ret = 0
    · have htype : ¬ got.words 1 = vencStreamH264 := fun h => hgot ⟨hret, h⟩
      rw [if_pos hret] at hasked
      refine tries_pure ⟨rfl, ⟨some got.words, fun _ => none, answers⟩, rfl, ?_, ?_⟩
      · rw [vencGetStream_events, streamEvents, Option.elim_some, if_neg htype]
        exact rfl
      · rw [streamSights, Option.elim_some, if_neg htype]
        exact hasked
    · rw [if_neg hret] at hasked
      exact tries_pure ⟨rfl, ⟨none, fun _ => none, answers⟩, rfl, rfl, hasked⟩

end Frame

/-! ## The loop -/

section Loop

variable {b : Board} {srv : RtspServer} {seen : List (Request × Answer)}

theorem streamEvents_inLoop {io : StreamIo} {e : Event} (he : e ∈ streamEvents io) :
    ∃ p answers, e = .pushNal p answers := by
  unfold streamEvents at he
  cases hst : io.st with
  | none =>
      rw [hst] at he
      exact nomatch he
  | some st =>
      rw [hst, Option.elim_some] at he
      split at he
      · obtain ⟨i, -, hround⟩ := List.mem_filterMap.mp he
        obtain ⟨bytes, -, rfl⟩ := Option.map_eq_some_iff.mp hround
        exact ⟨_, _, rfl⟩
      · exact nomatch he

theorem Turn.events_inLoop (t : Turn) : ∀ e ∈ t.events, e.inLoop = true := by
  refine List.forall_mem_cons.mpr ⟨rfl, fun e he => ?_⟩
  obtain ⟨p, answers, rfl⟩ := streamEvents_inLoop he
  exact rfl

/-- A turn of the loop asks for the key frames of its PLAYs, takes one frame, and comes
back to the board it began with. -/
theorem mainTurn_goes (hb : b.Ready) (hsrv : Serving srv) (io : TurnIo) :
    Goes (mainTurn srv io) b seen fun srv' t => t.1 = b ∧ ∃ turn : Turn, turn.io = io ∧
      srv' = (run srv turn.events).1 ∧ Shows seen t.2 (turn.sights srv) := by
  refine tries_bind ((pollServer_goes hb hsrv io.poll).mono fun polled t ht => ?_)
  obtain ⟨b', seen'⟩ := t
  obtain ⟨rfl, rfl, hpolled⟩ := ht
  refine (requestStream_goes hb).mono fun srv' t ht => ?_
  obtain ⟨hboard, sio, hanswers, rfl, hshows⟩ := ht
  exact ⟨hboard, ⟨io, sio, hanswers⟩, rfl, vencGetStream_events _ _, hpolled.trans hshows⟩

theorem loopSights_append (srv : RtspServer) (turns turns' : List Turn) :
    loopSights srv (turns ++ turns') =
      loopSights srv turns ++ loopSights (run srv (turns.flatMap Turn.events)).1 turns' := by
  induction turns generalizing srv with
  | nil => rfl
  | cons t turns ih =>
      rw [List.cons_append, loopSights, ih, loopSights, List.flatMap_cons, run_append,
        List.append_assoc]

theorem mainLoop_goes (hb : b.Ready) (hsrv : Serving srv) (ios : List TurnIo) :
    Goes (mainLoop ios srv) b seen fun srv' t => t.1 = b ∧
      ∃ turns : List Turn, turns.map Turn.io = ios ∧
      srv' = (run srv (turns.flatMap Turn.events)).1 ∧ Shows seen t.2 (loopSights srv turns) := by
  refine Tries.mono (@tries_foldlM _ _ _ _ _ _ _ mainTurn (fun rest srv' t =>
    t.1 = b ∧ Serving srv' ∧
    ∃ turns : List Turn, ios = turns.map Turn.io ++ rest ∧
      srv' = (run srv (turns.flatMap Turn.events)).1 ∧
      Shows seen t.2 (loopSights srv turns)) _ _ _ ?_ ?_) ?_
  · exact ⟨rfl, hsrv, [], rfl, rfl, .refl seen⟩
  · intro io rest srv' t ht
    obtain ⟨hboard, hserving, turns, hsplit, hrun, hshows⟩ := ht
    obtain ⟨b', seen'⟩ := t
    obtain rfl : b' = b := hboard
    refine (mainTurn_goes hb hserving io).mono fun srv'' t' ht' => ?_
    obtain ⟨hboard, turn, rfl, rfl, hturn⟩ := ht'
    refine ⟨hboard, hserving.run turn.events_inLoop, turns ++ [turn], ?_, ?_, ?_⟩
    · rw [hsplit, List.map_append, List.append_assoc]
      rfl
    · rw [List.flatMap_append, List.flatMap_singleton, run_append, ← hrun]
    · rw [loopSights_append, ← hrun, loopSights, loopSights, List.append_nil]
      exact hshows.trans hturn
  · intro srv' t ht
    obtain ⟨hboard, -, turns, hsplit, hrun, hshows⟩ := ht
    rw [List.append_nil] at hsplit
    exact ⟨hboard, turns, hsplit.symm, hrun, hshows⟩

end Loop

/-! ## The program -/

theorem streamServer_serving (io : InitIo) (credentials : Option (Bytes × Bytes)) :
    Serving (streamServer io credentials) := by
  have hinit : ∀ i, (initialServer io).clients i = clientInit := initialServer_clients io
  have hrx : ∀ i, RxFits ((initialServer io).clients i) := by
    intro i
    rw [hinit]
    exact Nat.zero_le _
  have hturns : ∀ i, Turns ((initialServer io).clients i) _
    ((streamServer io credentials).clients i) :=
    fun i => run_turns (initialServer io) (configure credentials) hrx i
  refine ⟨?_, fun i => ((hturns i).invariant (hrx i) fun _ => Turn.rxFits).2, fun i => ?_⟩
  · cases credentials with
    | none => exact rfl
    | some c => exact rfl
  · have hchain := hturns i
    rw [hinit] at hchain
    exact turns_sound hchain

/-- An attempt that keeps the rules without trusting the kernel keeps them. -/
theorem Goes.inOrder {α : Type} {p : Try α} {b : Board}
    {post : α → Board × List (Request × Answer) → Prop}
    (h : Goes p b [] post) : InOrder p b fun a b' => ∃ seen, post a (b', seen) := by
  have hsafe : p.run.Safe ⟨fun _ _ => True, Board.step⟩ b _ := Safe.unrecorded h
  have hrules : p.run.Safe rules b _ := hsafe.distrust rules rfl fun _ _ _ => trivial
  refine hrules.mono fun o b' ho => ?_
  cases o with
  | none => exact trivial
  | some a => exact ho

theorem Goes.runs {α : Type} {p : Try α} {b : Board}
    {post : α → Board × List (Request × Answer) → Prop}
    (h : Goes p b [] post) {l : List (Request × Answer)} {o : Option α} (hrun : Runs p.run l o) :
    ∃ a b', o = some a ∧ post a (b', l) := by
  obtain ⟨s, hwatch, hend⟩ := Safe.watch h hrun fun _ _ => trivial
  rw [recording, Monitor.watch_recorded] at hwatch
  obtain ⟨b', -, rfl⟩ := Option.map_eq_some_iff.mp hwatch
  cases o with
  | none => exact hend.elim
  | some a => exact ⟨a, b', rfl, hend⟩

/-- Whatever the devices answer, as long as no block that is granted wraps, all requests of
the program are in order, and every block it is granted is accounted for.  Where its loop
ends, no request that it needs has failed, every channel runs, it holds no frame and no
mapping, and every block is a device's. -/
theorem main_in_order (bitrate : UInt32 → UInt32 → UInt32 → UInt32) (io : InitIo)
    (credentials : Option (Bytes × Bytes)) (ios : List TurnIo) {l : List (Request × Answer)}
    {o : Option RtspServer} (hrun : Runs (main bitrate io credentials ios).run l o)
    (htrusted : ∀ x ∈ l, trusted x.1 x.2) :
    ∃ b, rules.watch Board.initial l = some b ∧ b.blocks.Perm (l.flatMap granted) ∧
      (o.isSome = true → b.Quiet ∧ b.given.Perm (l.flatMap granted) ∧ ∀ d ∈ vpssChannels,
        b.stage d.chan = .started ∧ b.picture d.chan = some (d.width, d.height)) := by
  have hsafe : InOrder (main bitrate io credentials ios) Board.initial fun _ => Starting [] := by
    refine tries_bind ((setup_starts bitrate initial_quiet fun _ _ => rfl).mono fun _ b hb => ?_)
    obtain ⟨started, hsplit, hstarted, -⟩ := hb.stages
    rw [List.append_nil] at hsplit
    have hready : b.Ready := ⟨hb.toQuiet, hsplit ▸ hstarted⟩
    by_cases hinit : (rtspServerInit io).1 < 0
    · rw [if_pos hinit]
      exact trivial
    · rw [if_neg hinit]
      refine (mainLoop_goes hready (streamServer_serving io credentials) ios).inOrder.mono
        fun _ b' hb' => ?_
      obtain ⟨_, hboard, -⟩ := hb'
      obtain rfl : b' = b := hboard
      exact hb
  obtain ⟨b, hwatch, hend⟩ := Safe.watch hsafe hrun htrusted
  have hblocks : b.blocks.Perm (l.flatMap granted) := Board.watch_blocks hwatch
  refine ⟨b, hwatch, hblocks, fun ho => ?_⟩
  obtain ⟨srv, rfl⟩ := Option.isSome_iff_exists.mp ho
  have hstart : Starting [] b := hend
  obtain ⟨started, hsplit, hstarted, -⟩ := hstart.stages
  rw [List.append_nil] at hsplit
  rw [Board.blocks, hstart.free, List.nil_append] at hblocks
  refine ⟨hstart.toQuiet, hblocks, fun d hd => ⟨?_, hstart.pictures d hd⟩⟩
  rw [hsplit] at hd
  exact hstarted d hd

/-- A kernel with a block for every request that is not too large, and a frame of one
NAL on channel 0 whenever it is asked. -/
def kernel : Request → Answer
  | .vmmAlloc _ size _ =>
    if size < 0x10000000 then ⟨0, fun _ => 0xa0000000, fun _ => 0⟩ else ⟨-1, fun _ => 0, fun _ => 0⟩
  | .ioctl .mediaProcess _ _ =>
    ⟨0, fun w => [4, 4, 0, 0, 1, 0, 0, 0, 0, 0, 0, 0, 0, 0xa0001000, 0, 5].getD w 0, fun _ => 0⟩
  | .mmap _ _ => ⟨0x40000000, fun _ => 0, fun j => [0, 0, 1, 0x65, 0x80].getD j 0⟩
  | .writeStdout bytes => ⟨bytes.length, fun _ => 0, fun _ => 0⟩
  | _ => ⟨0, fun _ => 0x1000, fun _ => 0⟩

theorem kernel_trusted (q : Request) : trusted q (kernel q) := by
  cases q with
  | vmmAlloc align size name =>
      intro hok
      by_cases hsize : size < 0x10000000
      · have hkernel : kernel (.vmmAlloc align size name) = ⟨0, fun _ => 0xa0000000, fun _ => 0⟩ :=
          if_pos hsize
        rw [hkernel]
        rw [UInt32.lt_iff_toNat_lt] at hsize
        exact Nat.lt_of_lt_of_le (Nat.add_lt_add_left hsize _) (by decide)
      · have hkernel : kernel (.vmmAlloc align size name) = ⟨-1, fun _ => 0, fun _ => 0⟩ :=
          if_neg hsize
        rw [hkernel] at hok
        exact nomatch hok
  | _ => exact trivial

/-- The bit rates for the two channels. -/
def sampleBitrate (width _ _ : UInt32) : UInt32 := if width = 1920 then 3648 else 832

/-- A client that connects and plays stream 0 in two turns of the loop. -/
def sampleTurns : List TurnIo :=
  [⟨samplePoll 5 (sampleSetup "rtsp://h/stream=0/video" ++ samplePlay), fun _ _ _ => []⟩,
    ⟨samplePoll (-1) [], fun _ _ _ => []⟩]

theorem main_in_order_sample :
    ∃ b, rules.watch Board.initial
        (exec (fun _ => kernel) 0 (main sampleBitrate sampleInit none sampleTurns).run).1 = some b ∧
      b.Quiet ∧ ∀ d ∈ vpssChannels, b.stage d.chan = .started ∧
        b.picture d.chan = some (d.width, d.height) := by
  obtain ⟨b, hwatch, -, hstarted⟩ := main_in_order sampleBitrate sampleInit none sampleTurns
    (exec_runs (fun _ => kernel) 0 _) (exec_allows (m := rules) (fun _ => kernel_trusted) 0 _)
  obtain ⟨hquiet, -, hchannels⟩ := hstarted (by decide +kernel)
  exact ⟨b, hwatch, hquiet, hchannels⟩

/-- A board on which every channel runs. -/
def readyBoard : Board := { Board.initial with stage := fun _ => .started }

theorem readyBoard_ready : readyBoard.Ready := ⟨⟨rfl, rfl, rfl, rfl⟩, fun _ _ => rfl⟩

/-- A run of the loop is a run of the server: in each turn one poll, and the pushes of the
frame that the encoder delivers.  What the devices see of it is one key frame asked for
every PLAY that is answered 200, and one frame fetched with its mappings, those of channel
0 copied to the standard output. -/
theorem loop_serves (io : InitIo) (credentials : Option (Bytes × Bytes)) (ios : List TurnIo)
    {l : List (Request × Answer)} {o : Option RtspServer}
    (hrun : Runs (mainLoop ios (streamServer io credentials)).run l o) :
    ∃ turns : List Turn, turns.map Turn.io = ios ∧
      o = some (run (streamServer io credentials) (turns.flatMap Turn.events)).1 ∧
      sights l = loopSights (streamServer io credentials) turns := by
  obtain ⟨srv, b, rfl, -, turns, hios, hsrv, hshows⟩ :=
    Goes.runs (mainLoop_goes readyBoard_ready (streamServer_serving io credentials) ios) hrun
  exact ⟨turns, hios, congrArg some hsrv, hshows⟩

theorem loop_serves_sample :
    ∃ turns : List Turn, turns.map Turn.io = sampleTurns ∧
      (exec (fun _ => kernel) 0 (mainLoop sampleTurns (streamServer sampleInit none)).run).2 =
        some (run (streamServer sampleInit none) (turns.flatMap Turn.events)).1 ∧
      sights
      (exec (fun _ => kernel) 0 (mainLoop sampleTurns (streamServer sampleInit none)).run).1 =
        loopSights (streamServer sampleInit none) turns :=
  loop_serves sampleInit none sampleTurns (exec_runs (fun _ => kernel) 0 _)

end Streamer
end FH8852
