import FH8852.Rtsp.Conf
import FH8852.Rtsp.Observe

/-!
# Connections by themselves

A client cannot tell from what it is sent whether it shares the server: taking
the other clients out of a run leaves its moves as they are.  The configuration
is the only state that the slots share, and no client's moves change it.
-/

namespace FH8852
namespace Rtsp

open CLib History

/-! ## One slot -/

/-- What a call does to the client in a slot, but for accepting it. -/
def Event.client (conf : RtspConf) (i : Slot) : Event → RtspClient → RtspClient × List Move
  | poll io => pollClient conf io.nowUs (io.client i)
  | pushNal p answers =>
    if p.streamId < 0 ∨ (rtspStreamCount : Int) ≤ p.streamId ∨ p.nal.isEmpty then skipPush conf p
    else if nalType p.nal = nalSei then
      skipPush (cacheParamSet conf p.streamId.toNat p.nal) p
    else pushClient (cacheParamSet conf p.streamId.toNat p.nal) p (answers i)
  | close => fun c =>
    ((clientReset c).1, [⟨conf, c, .close, (clientReset c).2, (clientReset c).1⟩])
  | _ => fun c => (c, [])

/-- The server once the call has accepted a connection, if it accepts any. -/
def Event.accepted (srv : RtspServer) : Event → RtspServer × List Record
  | poll io => acceptClient srv io.acceptFd io.peer
  | _ => (srv, [])

theorem apply_slot (srv : RtspServer) (e : Event) (i : Slot) :
    (e.apply srv).1.clients i =
        (e.client srv.toRtspConf i ((e.accepted srv).1.clients i)).1 ∧
      slotLog i (e.apply srv).2 = slotLog i (e.accepted srv).2 ++
        (e.client srv.toRtspConf i ((e.accepted srv).1.clients i)).2 := by
  cases e with
  | poll io =>
      have hpolled := (forClients_spec (fun i =>
        pollClient (acceptClient srv io.acceptFd io.peer).1.toRtspConf io.nowUs (io.client i))
        (acceptClient srv io.acceptFd io.peer).1).2 i
      have hclient : ((Event.poll io).apply srv).1.clients i = _ := hpolled.1
      have hlog : slotLog i ((Event.poll io).apply srv).2 = _ := slotLog_append i _ _
      rw [hclient, hlog, hpolled.2, acceptClient_conf]
      exact ⟨rfl, rfl⟩
  | pushNal p answers =>
      show (rtspServerPushNal srv p answers).1.clients i = _ ∧
        slotLog i (rtspServerPushNal srv p answers).2 = _
      simp only [rtspServerPushNal, Event.client, Event.accepted]
      by_cases hguard : p.streamId < 0 ∨ (rtspStreamCount : Int) ≤ p.streamId ∨ p.nal.isEmpty
      · rw [if_pos hguard, if_pos hguard]
        exact (forClients_spec _ _).2 i
      · rw [if_neg hguard, if_neg hguard]
        by_cases hsei : nalType p.nal = nalSei
        · rw [if_pos hsei, if_pos hsei]
          exact (forClients_spec _ _).2 i
        · rw [if_neg hsei, if_neg hsei]
          exact (forClients_spec _ _).2 i
  | setCredentials | useShadow | onIdrRequest => exact ⟨rfl, rfl⟩
  | enableStream id fps =>
      show (rtspServerEnableStream srv id fps).clients i = srv.clients i ∧ _
      unfold rtspServerEnableStream
      split <;> exact ⟨rfl, rfl⟩
  | close =>
      obtain ⟨hclient, hlog⟩ := (forClients_spec (fun _ c => ((clientReset c).1,
        [⟨srv.toRtspConf, c, .close, (clientReset c).2, (clientReset c).1⟩])) srv).2 i
      refine ⟨hclient, ?_⟩
      show slotLog i (_ ++ _) = _
      rw [slotLog_append, slotLog_map_server, List.append_nil, hlog]
      rfl

/-- The slot of the next connection. -/
def freeSlot (srv : RtspServer) : Option Slot :=
  (List.finRange rtspMaxClients).find? fun i => (srv.clients i).tcpFd < 0

theorem acceptClient_of_freeSlot {srv : RtspServer} {i : Slot} (h : freeSlot srv = some i)
    {fd : Int} (hfd : 0 ≤ fd) (peer : SockAddr) :
    (acceptClient srv fd peer).1.clients i = acceptedClient fd peer ∧
      slotLog i (acceptClient srv fd peer).2 =
        [⟨srv.toRtspConf, srv.clients i, .accept fd peer,
          .opened fd :: (clientReset (srv.clients i)).2, acceptedClient fd peer⟩] := by
  unfold freeSlot at h
  unfold acceptClient
  rw [if_neg (by omega), h]
  refine ⟨if_pos rfl, ?_⟩
  simp [slotLog]

/-- A connection is not given the slot of another. -/
theorem acceptClient_of_open {srv : RtspServer} {i : Slot} (h : 0 ≤ (srv.clients i).tcpFd)
    (fd : Int) (peer : SockAddr) :
    (acceptClient srv fd peer).1.clients i = srv.clients i ∧
      slotLog i (acceptClient srv fd peer).2 = [] := by
  rcases acceptClient_slot srv fd peer i with hsame | ⟨-, hfree, -⟩
  · exact hsame
  · omega

/-! ## The run without the others -/

/-- What a poll gets from the world for the client in the slot, with its result
of `accept` replaced. -/
def PollIo.alone (io : PollIo) (i : Slot) (acceptFd : Int) : PollIo :=
  { io with acceptFd := acceptFd, client := fun _ => io.client i }

/-- The call as it concerns the client in the slot: no one else connects. -/
def Event.alone (i : Slot) : Event → Event
  | poll io => .poll (io.alone i (-1))
  | pushNal p answers => .pushNal p fun _ => answers i
  | e => e

theorem Event.alone_conf (e : Event) (i : Slot) (conf : RtspConf) :
    (e.alone i).conf conf = e.conf conf := by
  cases e <;> rfl

theorem Event.alone_client (e : Event) (i j : Slot) (conf : RtspConf) :
    (e.alone i).client conf j = e.client conf i := by
  cases e <;> rfl

theorem Event.alone_accepted (e : Event) (i : Slot) (srv : RtspServer) :
    (e.alone i).accepted srv = (srv, []) := by
  cases e <;> rfl

theorem run_alone_conf (i : Slot) (evs : List Event) {srv srv' : RtspServer}
    (h : srv'.toRtspConf = srv.toRtspConf) :
    (run srv' (evs.map (Event.alone i))).1.toRtspConf = (run srv evs).1.toRtspConf := by
  induction evs generalizing srv srv' with
  | nil => exact h
  | cons e evs ih =>
      refine ih ?_
      rw [apply_conf, apply_conf, e.alone_conf, h]

/-- Nothing happens to a client that is not there. -/
theorem Event.client_init (e : Event) (conf : RtspConf) (i : Slot) :
    (e.client conf i clientInit).1 = clientInit := by
  cases e with
  | poll | setCredentials | useShadow | onIdrRequest | enableStream | close => rfl
  | pushNal p answers =>
      simp only [Event.client]
      split
      · rfl
      · split <;> rfl

theorem run_alone_init (i : Slot) (evs : List Event) {srv : RtspServer}
    (h : ∀ j, srv.clients j = clientInit) (j : Slot) :
    (run srv (evs.map (Event.alone i))).1.clients j = clientInit := by
  induction evs generalizing srv with
  | nil => exact h j
  | cons e evs ih =>
      refine ih fun k => ?_
      rw [(apply_slot srv (e.alone i) k).1, e.alone_accepted, e.alone_client, h k]
      exact e.client_init _ _

/-! ## The life of a connection -/

/-- The moves up to and with the end of the connection. -/
def life : List Move → List Move
  | [] => []
  | m :: rest => if m.kind = .ended then [m] else m :: life rest

theorem life_append_of_ended {l : List Move} (h : ∃ m ∈ l, m.kind = .ended) (l' : List Move) :
    life (l ++ l') = life l := by
  induction l with
  | nil =>
      obtain ⟨m, hm, -⟩ := h
      cases hm
  | cons m l ih =>
      rw [List.cons_append, life, life]
      by_cases hend : m.kind = .ended
      · rw [if_pos hend, if_pos hend]
      · rw [if_neg hend, if_neg hend, ih]
        obtain ⟨m', hm', hend'⟩ := h
        rcases List.mem_cons.mp hm' with rfl | hm'
        · exact absurd hend' hend
        · exact ⟨m', hm', hend'⟩

theorem life_append_of_open {l : List Move} (h : ∀ m ∈ l, m.kind ≠ .ended) (l' : List Move) :
    life (l ++ l') = l ++ life l' := by
  induction l with
  | nil => rfl
  | cons m l ih =>
      rw [List.cons_append, life, if_neg (h m List.mem_cons_self),
        ih fun m' hm' => h m' (List.mem_cons_of_mem m hm')]
      rfl

theorem Turn.keeps_open {m : Move} (h : Turn m) (hopen : 0 ≤ m.pre.tcpFd)
    (hend : m.kind ≠ .ended) : 0 ≤ m.post.tcpFd := by
  cases h.session with
  | accept _ _ _ _ hfd hpost =>
      rw [hpost]
      exact hfd
  | ended hk => exact absurd hk hend
  | quiet _ _ hfd | setup _ _ _ _ _ _ _ hfd | setupFailed _ _ _ hfd | play _ hfd
  | teardown _ _ hfd | metadata _ _ _ hfd | push _ _ _ _ _ hfd =>
      rw [hfd]
      exact hopen

theorem turns_keep_open {c c' : RtspClient} {l : List Move} (h : Turns c l c')
    (hopen : 0 ≤ c.tcpFd) (hend : ∀ m ∈ l, m.kind ≠ .ended) : 0 ≤ c'.tcpFd := by
  have hstrong : Chain Move.pre Move.post (fun m => Turn m ∧ m.kind ≠ .ended) c l c' :=
    h.strengthen fun m hm hturn => ⟨hturn, hend m hm⟩
  exact (hstrong.invariant (I := fun c => 0 ≤ c.tcpFd) hopen fun m hm hok =>
    hok.1.keeps_open hm hok.2).2

/-- A slot without a connection is as `client_init` leaves it. -/
theorem Turn.free {m : Move} (h : Turn m) (hpre : m.pre.tcpFd < 0 → m.pre = clientInit) :
    m.post.tcpFd < 0 → m.post = clientInit := by
  intro hfree
  cases h with
  | @accept srv c fd peer hfd =>
      have hfree : fd < 0 := hfree
      omega
  | hangup | close => rfl
  | skip => exact hpre hfree
  | @recv srv c bytes hc =>
      have hfree : c.tcpFd < 0 := hfree
      omega
  | @request srv c io req hc =>
      have hsame := (handleRequest_effect srv c io req).sameConnection.tcpFd
      have hpost : (requestMove srv c io req).post.tcpFd = c.tcpFd := by
        rw [← hsame]
        simp only [requestMove]
        split <;> rfl
      rw [hpost] at hfree
      omega
  | @settle srv c hc =>
      have hpost : (Rtsp.settle c).tcpFd = c.tcpFd := by
        unfold Rtsp.settle
        split <;> rfl
      have hfree : (Rtsp.settle c).tcpFd < 0 := hfree
      omega
  | @metadata srv c _ _ _ hc =>
      have hfree : c.tcpFd < 0 := hfree
      omega
  | @push srv c _ _ _ hc =>
      have hfree : c.tcpFd < 0 := hfree
      omega

/-! ## Both runs -/

/-- The slots `i` and 0 of the two servers hold the same open connection. -/
structure Mirrors (i : Slot) (srv srv' : RtspServer) : Prop where
  conf : srv'.toRtspConf = srv.toRtspConf
  client : srv'.clients 0 = srv.clients i
  isOpen : 0 ≤ (srv.clients i).tcpFd
  rxFits : ∀ j, RxFits (srv.clients j)

theorem apply_rxFits {srv : RtspServer} (h : ∀ j, RxFits (srv.clients j)) (e : Event) (j : Slot) :
    RxFits ((e.apply srv).1.clients j) :=
  ((apply_turns srv e h j).invariant (h j) fun _ => Turn.rxFits).2

/-- One call makes the same moves in both servers, and if none of them ends the
connection the servers go on as before. -/
theorem Mirrors.apply {i : Slot} {srv srv' : RtspServer} (h : Mirrors i srv srv') (e : Event) :
    slotLog 0 ((e.alone i).apply srv').2 = slotLog i (e.apply srv).2 ∧
      ((∀ m ∈ slotLog i (e.apply srv).2, m.kind ≠ .ended) →
        Mirrors i (e.apply srv).1 ((e.alone i).apply srv').1) := by
  have hslot := apply_slot srv e i
  have haccepted : (e.accepted srv).1.clients i = srv.clients i ∧
      slotLog i (e.accepted srv).2 = [] := by
    cases e with
    | poll io => exact acceptClient_of_open h.isOpen _ _
    | pushNal | setCredentials | useShadow | enableStream | onIdrRequest | close => exact ⟨rfl, rfl⟩
  rw [haccepted.1, haccepted.2, List.nil_append] at hslot
  have hslot' := apply_slot srv' (e.alone i) 0
  have hnothing : slotLog 0 ([] : List Record) = [] := rfl
  rw [e.alone_accepted, e.alone_client, h.conf, hnothing, List.nil_append] at hslot'
  simp only [h.client] at hslot'
  refine ⟨hslot'.2.trans hslot.2.symm, fun hend => ⟨?_, hslot'.1.trans hslot.1.symm, ?_, ?_⟩⟩
  · rw [apply_conf, apply_conf, e.alone_conf, h.conf]
  · exact turns_keep_open (apply_turns srv e h.rxFits i) h.isOpen hend
  · exact apply_rxFits h.rxFits e

theorem Mirrors.life {i : Slot} {srv srv' : RtspServer} (h : Mirrors i srv srv')
    (evs : List Event) :
    Rtsp.life (slotLog i (run srv evs).2) =
      Rtsp.life (slotLog 0 (run srv' (evs.map (Event.alone i))).2) := by
  induction evs generalizing srv srv' with
  | nil => rfl
  | cons e evs ih =>
      obtain ⟨hlog, hnext⟩ := h.apply e
      simp only [run, List.map_cons, slotLog_append]
      rw [hlog]
      by_cases hend : ∃ m ∈ slotLog i (e.apply srv).2, m.kind = .ended
      · rw [life_append_of_ended hend, life_append_of_ended hend]
      · have hend : ∀ m ∈ slotLog i (e.apply srv).2, m.kind ≠ .ended := fun m hm hk =>
          hend ⟨m, hm, hk⟩
        rw [life_append_of_open hend, life_append_of_open hend, ih (hnext hend)]

theorem freeSlot_spec {srv : RtspServer} {i : Slot} (h : freeSlot srv = some i) :
    (srv.clients i).tcpFd < 0 := by
  have h := List.find?_some h
  simpa using h

theorem freeSlot_of_init {srv : RtspServer} (h : ∀ j, srv.clients j = clientInit) :
    freeSlot srv = some 0 := by
  have hall : (fun j => decide ((srv.clients j).tcpFd < 0)) = fun _ => true := by
    funext j
    rw [h j]
    rfl
  rw [freeSlot, hall]
  rfl

/-- In every run a slot without a connection is as `client_init` leaves it. -/
theorem run_slots (io : InitIo) (evs : List Event) (i : Slot) :
    RxFits ((run (initialServer io) evs).1.clients i) ∧
      (((run (initialServer io) evs).1.clients i).tcpFd < 0 →
        (run (initialServer io) evs).1.clients i = clientInit) := by
  have hchain := history_chain io evs i
  exact ⟨(hchain.invariant (Nat.zero_le _ : RxFits clientInit) fun _ => Turn.rxFits).2,
    (hchain.invariant (I := fun c => c.tcpFd < 0 → c = clientInit) (fun _ => rfl)
      fun m hfree hm => hm.free hfree).2⟩

/-- The poll that accepts the connection: its accept and the client's first turn. -/
theorem apply_accepting {srv : RtspServer} {i : Slot} (hslot : freeSlot srv = some i)
    (hinit : srv.clients i = clientInit) (pio : PollIo) (hfd : 0 ≤ pio.acceptFd) :
    let polled := pollClient srv.toRtspConf pio.nowUs (pio.client i)
      (acceptedClient pio.acceptFd pio.peer)
    ((Event.poll pio).apply srv).1.clients i = polled.1 ∧
      slotLog i ((Event.poll pio).apply srv).2 =
        ⟨srv.toRtspConf, clientInit, .accept pio.acceptFd pio.peer,
          .opened pio.acceptFd :: (clientReset clientInit).2,
          acceptedClient pio.acceptFd pio.peer⟩ :: polled.2 := by
  obtain ⟨hclient, hlog⟩ := apply_slot srv (.poll pio) i
  have haccept := acceptClient_of_freeSlot hslot hfd pio.peer
  rw [hinit] at haccept
  have haccepted : (Event.poll pio).accepted srv = acceptClient srv pio.acceptFd pio.peer := rfl
  rw [haccepted, haccept.1] at hclient
  rw [haccepted, haccept.1, haccept.2] at hlog
  exact ⟨hclient, hlog⟩

/-- The moves of the connection in the slot, from the poll that accepts it on. -/
def connectionMoves (io : InitIo) (before : List Event) (pio : PollIo) (later : List Event)
    (i : Slot) : List Move :=
  life (slotLog i (run (run (initialServer io) before).1 (.poll pio :: later)).2)

/-- A connection makes the same moves when every other client is taken out of
the run, so it is sent the same replies and packets. -/
theorem connection_isolated (io : InitIo) (before : List Event) (pio : PollIo)
    (later : List Event) (i : Slot) (hfd : 0 ≤ pio.acceptFd)
    (hslot : freeSlot (run (initialServer io) before).1 = some i) :
    connectionMoves io before pio later i =
      connectionMoves io (before.map (Event.alone i)) (pio.alone i pio.acceptFd)
        (later.map (Event.alone i)) 0 := by
  have hconf := run_alone_conf i before (rfl : (initialServer io).toRtspConf = _)
  have hfree := freeSlot_of_init (run_alone_init i before (initialServer_clients io))
  have hinit := run_alone_init i before (initialServer_clients io) 0
  have hslots := run_slots io before
  unfold connectionMoves
  generalize (run (initialServer io) before).1 = srv at hconf hslot hslots
  generalize (run (initialServer io) (before.map (Event.alone i))).1 = srv' at hconf hfree hinit
  have hclient : srv.clients i = clientInit := (hslots i).2 (freeSlot_spec hslot)
  obtain ⟨hpost, hlog⟩ := apply_accepting hslot hclient pio hfd
  obtain ⟨hpost', hlog'⟩ := apply_accepting hfree hinit (pio.alone i pio.acceptFd) hfd
  have hpolled : pollClient srv'.toRtspConf (pio.alone i pio.acceptFd).nowUs
      ((pio.alone i pio.acceptFd).client 0) (acceptedClient pio.acceptFd pio.peer) =
      pollClient srv.toRtspConf pio.nowUs (pio.client i)
        (acceptedClient pio.acceptFd pio.peer) := by
    rw [hconf]
    rfl
  have hsame : slotLog 0 ((Event.poll (pio.alone i pio.acceptFd)).apply srv').2 =
      slotLog i ((Event.poll pio).apply srv).2 := by
    rw [hlog, hlog', ← hpolled, hconf]
    rfl
  simp only [run, slotLog_append]
  rw [hsame]
  by_cases hend : ∃ m ∈ slotLog i ((Event.poll pio).apply srv).2, m.kind = .ended
  · rw [life_append_of_ended hend, life_append_of_ended hend]
  · have hend : ∀ m ∈ slotLog i ((Event.poll pio).apply srv).2, m.kind ≠ .ended :=
      fun m hm hk => hend ⟨m, hm, hk⟩
    have hmirrors : Mirrors i ((Event.poll pio).apply srv).1
        ((Event.poll (pio.alone i pio.acceptFd)).apply srv').1 := by
      refine ⟨?_, ?_, ?_, apply_rxFits (fun j => (hslots j).1) _⟩
      · rw [apply_conf, apply_conf]
        exact hconf
      · rw [hpost, hpost', ← hpolled]
        rfl
      · rw [hpost]
        refine turns_keep_open (pollClient_turns _ _ _ (Nat.zero_le _)) hfd fun m hm => ?_
        refine hend m ?_
        rw [hlog]
        exact List.mem_cons_of_mem _ hm
    rw [life_append_of_open hend, life_append_of_open hend, hmirrors.life later]

/-- Two clients at once: the one in slot 0 plays before and while the one in slot 1
sets up its session. -/
def sharedPoll (fd : Int) (first second : Bytes) : PollIo :=
  { samplePoll fd [] with
    client :=
      fun i => sampleClientIo (if i.val = 0 then first else if i.val = 1 then second else []) }

def sharedBefore : List Event :=
  [.enableStream 0 25,
    .poll (sharedPoll 5 (sampleSetup "rtsp://h/stream=0/video" ++ samplePlay) [])]

def sharedLater : List Event :=
  [samplePush 0 [0x67, 1, 2], .poll (sharedPoll (-1) sampleTeardown samplePlay),
    samplePush 0 [0x67, 3]]

theorem connection_isolated_sample :
    ((connectionMoves sampleInit sharedBefore
        (sharedPoll 6 [] (sampleSetup "rtsp://h/stream=0/video")) sharedLater 1).flatMap
          (Move.rtp .video)).length = 1 ∧
      connectionMoves sampleInit sharedBefore
          (sharedPoll 6 [] (sampleSetup "rtsp://h/stream=0/video")) sharedLater 1 =
        connectionMoves sampleInit (sharedBefore.map (Event.alone 1))
          ((sharedPoll 6 [] (sampleSetup "rtsp://h/stream=0/video")).alone 1 6)
          (sharedLater.map (Event.alone 1)) 0 := by
  have hslot : freeSlot (run (initialServer sampleInit) sharedBefore).1 = some 1 := by
    decide +kernel
  exact ⟨by decide +kernel, connection_isolated sampleInit sharedBefore _ sharedLater 1
    (by decide) hslot⟩

end Rtsp
end FH8852
