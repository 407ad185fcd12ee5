import FH8852.Rtsp.Conf
import FH8852.Rtsp.Receive

/-!
# The bytes on the wire

The messages the server composes for a connection are whole, but `send_all`
gives up in the middle of a message when the socket is full, and the server goes
on with the next one.
-/

namespace FH8852
namespace Rtsp

open CLib History

/-! ## Replies fit their buffers -/

namespace Reply

def text : Reply → Bytes
  | plain status cseq extra => replyText status cseq extra
  | described cseq uri sdp => describeText cseq uri sdp ++ sdp

/-- `snprintf` cuts nothing off, so `send_all` reads no byte behind the buffer. -/
def Fits : Reply → Prop
  | plain status cseq extra => (replyText status cseq extra).length < 512
  | described cseq uri sdp => (describeText cseq uri sdp).length < 512 ∧ sdp.length < 1024

theorem Fits.bytes_eq {r : Reply} (h : r.Fits) : r.bytes = r.text := by
  cases r with
  | plain status cseq extra =>
      show List.take 511 _ ++ [] = _
      rw [List.append_nil]
      exact List.take_of_length_le (Nat.le_of_lt_succ h)
  | described cseq uri sdp =>
      show List.take 511 _ ++ (List.take 1023 _ ++ []) = _
      rw [List.append_nil, List.take_of_length_le (Nat.le_of_lt_succ h.1),
        List.take_of_length_le (Nat.le_of_lt_succ h.2)]
      rfl

end Reply

theorem length_ascii (s : String) : (ascii s).length = s.toList.length := List.length_map _

theorem base64Encode_length_le (data : Bytes) :
    (base64Encode data).length ≤ (data.length + 2) / 3 * 4 := by
  fun_induction base64Encode data with
  | case1 | case2 | case3 => simp
  | case4 a b c rest v ih =>
      simp only [List.length_cons]
      omega

theorem sdpText_length_le (s : Nat) (sps : Buf) (sps64 pps64 : Bytes) (fps : UInt32) :
    (sdpText s sps sps64 pps64 fps).length ≤ sps64.length + pps64.length + 400 := by
  have hfps : (decimal fps.toNat).length ≤ 10 :=
    decimal_length_le (by omega) (fps.toNat_lt.trans (by decide))
  have hhex : ∀ b, (hexByte b).length = 2 := fun _ => rfl
  simp only [sdpText, crlf, List.length_append, hhex]
  split <;> simp only [List.length_append, length_ascii, String.reduceToList, List.length_cons,
    List.length_nil] <;> omega

theorem requestUri_length_le (req : Bytes) : (requestUri req).length ≤ 255 :=
  List.length_take_le _ _

theorem plain_fits {status extra : Bytes} (hstatus : status.length ≤ 40) (req : Bytes)
    (hextra : extra.length ≤ 255) : (Reply.plain status (requestCseq req) extra).Fits := by
  have hcseq := requestCseq_length_le req
  show List.length (replyText _ _ _) < 512
  simp only [replyText, serverName, crlf, List.length_append, length_ascii, String.reduceToList,
    List.length_cons, List.length_nil]
  omega

/-- With parameter sets of at most 128 bytes the session description fits. -/
theorem described_fits {srv : RtspConf} (hsets : SetsFit srv) (req : Bytes) (s : Nat) :
    (Reply.described (requestCseq req) (requestUri req) (sdpText s (srv.sps s)
      (base64Encode ((srv.sps s).read 0 (srv.spsLen s)))
      (base64Encode ((srv.pps s).read 0 (srv.ppsLen s))) (srv.fps s))).Fits := by
  have hcseq := requestCseq_length_le req
  have huri := requestUri_length_le req
  have hsps := base64Encode_length_le ((srv.sps s).read 0 (srv.spsLen s))
  have hpps := base64Encode_length_le ((srv.pps s).read 0 (srv.ppsLen s))
  have hsdp := sdpText_length_le s (srv.sps s) (base64Encode ((srv.sps s).read 0 (srv.spsLen s)))
    (base64Encode ((srv.pps s).read 0 (srv.ppsLen s))) (srv.fps s)
  rw [Buf.read_length] at hsps hpps
  obtain ⟨hspsLen, hppsLen⟩ := hsets s
  generalize sdpText s (srv.sps s) _ _ (srv.fps s) = sdp at hsdp
  have hlength : (decimal sdp.length).length ≤ 4 := decimal_length_le (by omega) (by omega)
  refine ⟨?_, by omega⟩
  simp only [describeText, serverName, List.length_append, length_ascii, String.reduceToList,
    List.length_cons, List.length_nil]
  omega

/-- The replies of a request fit. -/
theorem Effect.replies_fit {srv : RtspConf} {c : RtspClient} {io : RequestIo} {req : Bytes}
    {r : Outcome} (h : Effect srv c io req r) (hsets : SetsFit srv) :
    ∀ s ∈ r.outs.filterMap Out.reply?, s.Fits := by
  intro s hs
  cases h with
  | refused status _ hstatus =>
      rw [List.mem_singleton.mp hs]
      exact plain_fits (status_length_le (.inl hstatus)) req (by decide)
  | answered status extra _ _ hstatus hextra =>
      rw [List.mem_singleton.mp hs]
      refine plain_fits (status_length_le (.inr (hstatus.imp_right And.left))) req ?_
      rcases hextra with rfl | rfl <;> decide
  | described sdp _ _ hsdp =>
      obtain ⟨s', rfl⟩ := hsdp
      rw [List.mem_singleton.mp hs]
      exact described_fits hsets req s'
  | waiting => cases hs
  | setup t transport outs _ _ houts =>
      obtain ⟨lines, hlines⟩ : ∃ lines, (setupTrack c io (trackOf (requestUri req)) t
          (streamOf (requestUri req)) (requestCseq req) transport outs).outs =
          outs ++ [.reply (.plain (ascii "200 OK") (requestCseq req) (snprintf 256 lines))
            io.reply []] := ⟨_, rfl⟩
      rw [hlines, List.filterMap_append, houts.replies] at hs
      rw [List.mem_singleton.mp hs]
      exact plain_fits (by decide) req (List.length_take_le _ _)
  | setupFailed outs _ _ houts =>
      rw [List.filterMap_append, houts.replies] at hs
      rw [List.mem_singleton.mp hs]
      exact plain_fits (by decide) req (by decide)
  | play =>
      rw [playOk_replies] at hs
      rw [List.mem_singleton.mp hs]
      exact plain_fits (by decide) req (by decide)
  | teardown =>
      rw [teardownOk_replies] at hs
      rw [List.mem_singleton.mp hs]
      exact plain_fits (by decide) req (by decide)

/-! ## Messages -/

/-- A call of `send_all` on the connection, with the answers of its `send`s. -/
structure Call where
  data : Bytes
  answers : List SendResult

/-- What the socket takes of a call. -/
def Call.taken (call : Call) : Bytes := sendAll call.answers call.data

/-- The calls that send a message on the connection. -/
def Out.message? : Out → Option (List Call)
  | .reply r head body => some ((r.parts.zip [head, body]).map fun p => ⟨p.1, p.2⟩)
  | .packet _ _ data (.interleaved channel answers) => some [⟨frame channel data, answers⟩]
  | _ => none

def messageBytes (calls : List Call) : Bytes := calls.flatMap Call.data

def takenBytes (calls : List Call) : Bytes := calls.flatMap Call.taken

def messages (w : List Move) : List (List Call) :=
  (w.flatMap Move.outs).filterMap Out.message?

/-- What the socket takes of the connection's messages. -/
def wire (w : List Move) : Bytes := (messages w).flatMap takenBytes

/-- A whole reply, or a frame whose length field says how long it is. -/
def IsMessage (s : Bytes) : Prop :=
  (∃ r : Reply, s = r.text) ∨ ∃ channel data, data.length < 65536 ∧ s = frame channel data

/-- What the senders promise of an output. -/
def Out.Sound : Out → Prop
  | .reply r _ _ => r.Fits
  | .packet _ _ data (.interleaved _ _) => data.length ≤ 12 + rtpMaxPayload
  | _ => True

theorem Out.Sound.isMessage {o : Out} (h : o.Sound) {calls : List Call}
    (hcalls : o.message? = some calls) : IsMessage (messageBytes calls) := by
  cases o with
  | reply r head body =>
      cases hcalls
      refine .inl ⟨r, ?_⟩
      have h : r.Fits := h
      rw [← h.bytes_eq]
      cases r <;> rfl
  | packet k rtcp data via =>
      cases via with
      | interleaved channel answers =>
          cases hcalls
          have h : data.length ≤ 12 + rtpMaxPayload := h
          refine .inr ⟨channel, data, Nat.lt_of_le_of_lt h (by decide), ?_⟩
          exact List.append_nil _
      | udp | dropped => cases hcalls
  | videoNal | idr | opened | closed => cases hcalls

theorem trackSend_sound (k : TrackId) (t : RtspTrack) (rtcp : Bool) (data : Bytes)
    (answers : List SendResult) :
    (Out.packet k rtcp data (trackSend t rtcp data answers)).Sound := by
  unfold trackSend
  split
  · split
    · trivial
    · rename_i hlen
      show data.length ≤ 12 + rtpMaxPayload
      omega
  · split <;> trivial

theorem SentOn.sound {k : TrackId} {good : Bytes → Prop} {t t' : RtspTrack} {outs : List Out}
    (h : SentOn k good t outs t') : ∀ o ∈ outs, o.Sound := by
  induction h with
  | nil => exact fun o ho => absurd ho List.not_mem_nil
  | cons marker ts payload answers _ _ ih =>
      intro o ho
      rcases List.mem_cons.mp ho with rfl | ho
      · exact trackSend_sound _ _ _ _ _
      · exact ih o ho

theorem sendVideoNal_sound (t : RtspTrack) (nal : Bytes) (ts : UInt32) (last : Bool)
    (answers : Nat → List SendResult) :
    ∀ o ∈ (sendVideoNal t nal ts last answers).2, o.Sound := by
  obtain ⟨outs, houts, hsent⟩ := sendVideoNal_sentOn t nal ts last answers
  rw [houts]
  intro o ho
  rcases List.mem_cons.mp ho with rfl | ho
  · trivial
  · exact hsent.sound o ho

theorem SocketsOnly.sound {outs : List Out} (h : SocketsOnly outs) : ∀ o ∈ outs, o.Sound := by
  intro o ho
  obtain ⟨fd, rfl | rfl⟩ := h o ho <;> trivial

/-- All that a request sends besides replies are the BYEs. -/
theorem Effect.sound {srv : RtspConf} {c : RtspClient} {io : RequestIo} {req : Bytes}
    {r : Outcome} (h : Effect srv c io req r) (hsets : SetsFit srv) : ∀ o ∈ r.outs, o.Sound := by
  intro o ho
  have hfits := h.replies_fit hsets
  have hreply : ∀ s head body, o = .reply s head body → o.Sound := by
    rintro s head body rfl
    exact hfits s (List.mem_filterMap.mpr ⟨_, ho, rfl⟩)
  cases h with
  | refused | answered | described => exact hreply _ _ _ (List.mem_singleton.mp ho)
  | waiting => cases ho
  | setup t transport outs _ _ houts =>
      rcases List.mem_append.mp ho with ho | ho
      · exact houts.sound o ho
      · exact hreply _ _ _ (List.mem_singleton.mp ho)
  | setupFailed outs _ _ houts =>
      rcases List.mem_append.mp ho with ho | ho
      · exact houts.sound o ho
      · exact hreply _ _ _ (List.mem_singleton.mp ho)
  | play =>
      simp only [playOk] at ho
      rcases List.mem_cons.mp ho with ho | ho
      · exact hreply _ _ _ ho
      · split at ho
        · rw [List.mem_singleton.mp ho]
          trivial
        · cases ho
  | teardown =>
      simp only [teardownOk] at ho
      rcases List.mem_append.mp ho with ho | ho
      · obtain ⟨k, _, ho⟩ := List.mem_flatMap.mp ho
        split at ho
        · rw [List.mem_singleton.mp ho]
          exact trackSend_sound _ _ _ _ _
        · cases ho
      · rcases List.mem_cons.mp ho with ho | ho
        · exact hreply _ _ _ ho
        · exact (sessionReset_socketsOnly c).sound o ho

theorem Turn.sound {m : Move} (h : Turn m)
    (hsets : ∀ io req done, m.act = .request io req done → SetsFit m.srv) :
    ∀ o ∈ m.outs, o.Sound := by
  cases h with
  | accept =>
      intro o ho
      rcases List.mem_cons.mp ho with rfl | ho
      · trivial
      · exact (clientReset_socketsOnly _).sound o ho
  | hangup | close => exact (clientReset_socketsOnly _).sound
  | request => exact (handleRequest_effect _ _ _ _).sound (hsets _ _ _ rfl)
  | metadata => exact (sendMetadata_sentOn _ _ _).sound
  | push => exact sendVideoNal_sound _ _ _ _ _
  | recv | settle | skip => exact fun o ho => absurd ho List.not_mem_nil

/-! ## Short sends -/

/-- The socket refuses before it has taken `len` bytes. -/
def fallsShort : List SendResult → (len : Nat) → Bool
  | _, 0 => false
  | [], _ => false
  | .eintr :: rest, len => fallsShort rest len
  | .failed :: _, _ => true
  | .took n :: rest, len => n == 0 || fallsShort rest (len - n)

/-- What the sends of a call for `len` bytes are answered: the call is over when
all is taken or a send is refused. -/
def answered : List SendResult → (len : Nat) → List SendResult
  | _, 0 => []
  | [], len => [.took len]
  | .eintr :: rest, len => .eintr :: answered rest len
  | .failed :: _, _ => [.failed]
  | .took n :: rest, len => .took n :: if n = 0 then [] else answered rest (len - n)

namespace SendResult

def takes : SendResult → Bool
  | took n => n != 0
  | _ => false

/-- `send_all` gives up, be it after a failed send or after one of no bytes. -/
def refuses : SendResult → Bool
  | took n => n == 0
  | eintr => false
  | failed => true

end SendResult

def takesNothing (l : List SendResult) : Bool := !l.any SendResult.takes

/-- A part is taken and the rest refused. -/
def cuts (l : List SendResult) : Bool := l.any SendResult.takes && l.any SendResult.refuses

/-- After a refusal nothing more is taken. -/
def refusesToEnd : List SendResult → Bool
  | [] => true
  | r :: l => if r.refuses then takesNothing l else refusesToEnd l

theorem takesNothing_append (l l' : List SendResult) :
    takesNothing (l ++ l') = (takesNothing l && takesNothing l') := by
  simp only [takesNothing, List.any_append, Bool.not_or]

theorem refusesToEnd_append (l l' : List SendResult) :
    refusesToEnd (l ++ l') = (refusesToEnd l &&
      if l.any SendResult.refuses then takesNothing l' else refusesToEnd l') := by
  induction l with
  | nil => rfl
  | cons r l ih =>
      rw [List.cons_append, refusesToEnd, refusesToEnd, List.any_cons]
      cases r.refuses with
      | true => exact takesNothing_append l l'
      | false => exact ih

theorem sendAll_isPrefix (answers : List SendResult) (data : Bytes) :
    sendAll answers data <+: data := by
  fun_induction sendAll answers data with
  | case1 | case4 | case5 => exact List.nil_prefix
  | case2 => exact List.prefix_refl _
  | case3 _ _ _ ih => exact ih
  | case6 n rest data _ _ ih =>
      obtain ⟨t, ht⟩ := ih
      refine ⟨t, ?_⟩
      rw [List.append_assoc, ht, List.take_append_drop]

theorem sendAll_of_not_fallsShort {answers : List SendResult} {data : Bytes}
    (h : fallsShort answers data.length = false) : sendAll answers data = data := by
  induction answers generalizing data with
  | nil => cases data <;> rfl
  | cons answer rest ih =>
      cases data with
      | nil => rfl
      | cons b data =>
          cases answer with
          | took n =>
              have h : (n == 0 || fallsShort rest ((b :: data).length - n)) = false := h
              rw [Bool.or_eq_false_iff, beq_eq_false_iff_ne, ← List.length_drop] at h
              show (if n = 0 then [] else _ ++ sendAll rest ((b :: data).drop n)) = _
              rw [if_neg h.1, ih h.2, List.take_append_drop]
          | eintr => exact ih h
          | failed => cases h

theorem answered_any_refuses (answers : List SendResult) (len : Nat) :
    (answered answers len).any SendResult.refuses = fallsShort answers len := by
  induction answers generalizing len with
  | nil => cases len <;> rfl
  | cons answer rest ih =>
      cases len with
      | zero => rfl
      | succ len =>
          cases answer with
          | eintr => exact ih (len + 1)
          | failed => rfl
          | took n =>
              show (n == 0 || (if n = 0 then [] else answered rest (len + 1 - n)).any _) =
                (n == 0 || fallsShort rest (len + 1 - n))
              split
              · rename_i hn
                simp [hn]
              · rw [ih]

theorem sendAll_of_takesNothing {answers : List SendResult} {data : Bytes}
    (h : takesNothing (answered answers data.length) = true) : sendAll answers data = [] := by
  induction answers with
  | nil =>
      cases data with
      | nil => rfl
      | cons b data => cases h
  | cons answer rest ih =>
      cases data with
      | nil => rfl
      | cons b data =>
          cases answer with
          | eintr => exact ih h
          | failed => rfl
          | took n =>
              by_cases hn : n = 0
              · exact if_pos hn
              · simp [takesNothing, answered, SendResult.takes, hn] at h

namespace Call

/-- The answers the sends of the call get. -/
def results (call : Call) : List SendResult := answered call.answers call.data.length

theorem taken_isPrefix (call : Call) : call.taken <+: call.data := sendAll_isPrefix _ _

theorem taken_of_takesNothing {call : Call} (h : takesNothing call.results = true) :
    call.taken = [] :=
  sendAll_of_takesNothing h

theorem taken_of_whole {call : Call} (h : call.results.any SendResult.refuses = false) :
    call.taken = call.data :=
  sendAll_of_not_fallsShort ((answered_any_refuses _ _).symm.trans h)

end Call

def sentWhole (calls : List Call) : Bool :=
  calls.all fun call => !fallsShort call.answers call.data.length

theorem takenBytes_of_sentWhole {calls : List Call} (h : sentWhole calls = true) :
    takenBytes calls = messageBytes calls := by
  refine List.flatMap_congr fun call hcall => sendAll_of_not_fallsShort ?_
  have hcall := List.all_eq_true.mp h call hcall
  rwa [Bool.not_eq_true'] at hcall

/-- The answers a message gets. -/
def results (calls : List Call) : List SendResult := calls.flatMap Call.results

theorem sentWhole_eq (calls : List Call) :
    sentWhole calls = !(results calls).any SendResult.refuses := by
  simp only [sentWhole, results, List.any_flatMap, Call.results, answered_any_refuses,
    List.not_any_eq_all_not]

theorem takenBytes_of_takesNothing {calls : List Call} (h : takesNothing (results calls) = true) :
    takenBytes calls = [] := by
  induction calls with
  | nil => rfl
  | cons call calls ih =>
      rw [results, List.flatMap_cons, takesNothing_append, Bool.and_eq_true] at h
      rw [takenBytes, List.flatMap_cons, Call.taken_of_takesNothing h.1, List.nil_append]
      exact ih h.2

theorem takenBytes_isPrefix {calls : List Call} (h : refusesToEnd (results calls) = true) :
    takenBytes calls <+: messageBytes calls := by
  induction calls with
  | nil => exact List.nil_prefix
  | cons call calls ih =>
      rw [results, List.flatMap_cons, refusesToEnd_append, Bool.and_eq_true] at h
      rw [takenBytes, messageBytes, List.flatMap_cons, List.flatMap_cons]
      cases hrefused : call.results.any SendResult.refuses with
      | true =>
          rw [hrefused, if_pos rfl] at h
          have hnothing : calls.flatMap Call.taken = [] := takenBytes_of_takesNothing h.2
          rw [hnothing, List.append_nil]
          exact call.taken_isPrefix.trans (List.prefix_append _ _)
      | false =>
          rw [hrefused, if_neg Bool.false_ne_true] at h
          rw [Call.taken_of_whole hrefused]
          exact (List.prefix_append_right_inj _).mpr (ih h.2)

/-! ## Framing -/

/-- The bytes are messages of the list, one after the other, some left out and
the last perhaps cut short. -/
def Framed : List Bytes → Bytes → Prop
  | [], s => s = []
  | m :: ms, s => s <+: m ∨ Framed ms s ∨ m <+: s ∧ Framed ms (s.drop m.length)

/-- What the bytes on a connection are of the messages sent on it: whole ones,
some left out, and once one was cut a part of it at the end. -/
inductive Stands : (broken : Bool) → List Bytes → Bytes → Prop
  | whole {ms sent : List Bytes} (hsent : sent.Sublist ms) : Stands false ms sent.flatten
  | broken {before sent after : List Bytes} {m part : Bytes} (hsent : sent.Sublist before)
      (hpart : part <+: m) : Stands true (before ++ m :: after) (sent.flatten ++ part)

/-- The socket takes nothing once a message was cut, and cuts one at its end only. -/
def staysShut : (broken : Bool) → (answers : List (List SendResult)) → Bool
  | _, [] => true
  | broken, l :: answers =>
    (if broken then takesNothing l else refusesToEnd l) && staysShut (broken || cuts l) answers

theorem Stands.message {broken : Bool} {ms : List Bytes} {s : Bytes} (h : Stands broken ms s)
    {calls : List Call}
    (hshut : (if broken then takesNothing (results calls) else refusesToEnd (results calls)) =
      true) :
    Stands (broken || cuts (results calls)) (ms ++ [messageBytes calls])
      (s ++ takenBytes calls) := by
  cases h with
  | broken hsent hpart =>
      rw [if_pos rfl] at hshut
      rw [takenBytes_of_takesNothing hshut, List.append_nil, List.append_assoc, List.cons_append]
      exact .broken hsent hpart
  | @whole _ sent hsent =>
      rw [if_neg Bool.false_ne_true] at hshut
      rw [Bool.false_or, cuts]
      cases htakes : (results calls).any SendResult.takes with
      | false =>
          have hnothing : takesNothing (results calls) = true := by simp [takesNothing, htakes]
          rw [takenBytes_of_takesNothing hnothing, List.append_nil]
          exact .whole (hsent.trans (List.sublist_append_left _ _))
      | true =>
          cases hrefuses : (results calls).any SendResult.refuses with
          | false =>
              have hwhole : sentWhole calls = true := by simp [sentWhole_eq, hrefuses]
              rw [takenBytes_of_sentWhole hwhole, ← List.flatten_concat]
              exact .whole (hsent.append (List.Sublist.refl _))
          | true => exact .broken hsent (takenBytes_isPrefix hshut)

theorem Stands.messages {broken : Bool} {ms : List Bytes} {s : Bytes} (h : Stands broken ms s)
    {l : List (List Call)} (hshut : staysShut broken (l.map results) = true) :
    Stands (broken || (l.map results).any cuts) (ms ++ l.map messageBytes)
      (s ++ l.flatMap takenBytes) := by
  induction l generalizing broken ms s with
  | nil => simpa using h
  | cons calls l ih =>
      rw [List.map_cons, staysShut, Bool.and_eq_true] at hshut
      have hrest := ih (h.message hshut.1) hshut.2
      simpa only [List.map_cons, List.any_cons, List.flatMap_cons, Bool.or_assoc,
        List.append_assoc, List.singleton_append] using hrest

theorem Framed.of_whole {rest : List Bytes} {part : Bytes} (hrest : Framed rest part)
    {ms sent : List Bytes} (h : sent.Sublist ms) : Framed (ms ++ rest) (sent.flatten ++ part) := by
  induction h with
  | slnil => exact hrest
  | cons m _ ih => exact .inr (.inl ih)
  | cons_cons m _ ih =>
      rw [List.flatten_cons, List.append_assoc]
      refine .inr (.inr ⟨List.prefix_append _ _, ?_⟩)
      rwa [List.drop_left]

theorem Stands.framed {broken : Bool} {ms : List Bytes} {s : Bytes} (h : Stands broken ms s) :
    Framed ms s := by
  cases h with
  | whole hsent =>
      have hnone : Framed [] [] := rfl
      simpa using hnone.of_whole hsent
  | @broken _ _ after m part hsent hpart =>
      have hcut : Framed (m :: after) part := .inl hpart
      exact hcut.of_whole hsent

/-- Every message begins with the letters RT or with a dollar sign. -/
theorem IsMessage.starts {s : Bytes} (h : IsMessage s) :
    ∃ rest, s = 82 :: 84 :: rest ∨ s = 36 :: rest := by
  rcases h with ⟨r, rfl⟩ | ⟨channel, data, -, rfl⟩
  · cases r <;> exact ⟨_, .inl rfl⟩
  · exact ⟨_, .inr rfl⟩

/-- Two letters R in a row begin no sequence of messages. -/
theorem not_framed {ms : List Bytes} (hms : ∀ m ∈ ms, IsMessage m) (s : Bytes) :
    ¬ Framed ms (82 :: 82 :: s) := by
  induction ms with
  | nil => exact List.cons_ne_nil _ _
  | cons m ms ih =>
      obtain ⟨rest, hm⟩ := (hms m List.mem_cons_self).starts
      rintro (hcut | hskip | ⟨hwhole, -⟩)
      · rcases hm with rfl | rfl <;> simp at hcut
      · exact ih (fun m' hm' => hms m' (List.mem_cons_of_mem _ hm')) hskip
      · rcases hm with rfl | rfl <;> simp at hwhole

/-! ## Runs -/

def Move.messages (m : Move) : List (List Call) := m.outs.filterMap Out.message?

/-- The answers each of the messages of the move gets. -/
def Move.answers (m : Move) : List (List SendResult) := m.messages.map results

def Move.cuts (m : Move) : Bool := m.answers.any Rtsp.cuts

/-- What a connection has sent after the moves `v`. -/
structure OnWire (v : List Move) : Prop where
  isMessage : ∀ calls ∈ messages v, IsMessage (messageBytes calls)
  stands : Stands (v.any Move.cuts) ((messages v).map messageBytes) (wire v)

theorem messages_snoc (v : List Move) (m : Move) :
    messages (v ++ [m]) = messages v ++ m.messages := by
  simp only [messages, Move.messages, List.flatMap_append, List.flatMap_singleton,
    List.filterMap_append]

/-- One move of the server. -/
theorem OnWire.step {v : List Move} {m : Move} (h : OnWire v) (hturn : Turn m)
    (hsets : ∀ io req done, m.act = .request io req done → SetsFit m.srv)
    (hshut : staysShut (v.any Move.cuts) m.answers = true) : OnWire (v ++ [m]) := by
  refine ⟨?_, ?_⟩
  · rw [messages_snoc, List.forall_mem_append]
    refine ⟨h.isMessage, fun calls hcalls => ?_⟩
    obtain ⟨o, ho, hmessage⟩ := List.mem_filterMap.mp hcalls
    exact (hturn.sound hsets o ho).isMessage hmessage
  · have hmove := h.stands.messages hshut
    rw [messages_snoc, List.map_append, wire, messages_snoc, List.flatMap_append, List.any_append,
      List.any_cons, List.any_nil, Bool.or_false]
    exact hmove

/-- A run of the server. -/
theorem connection_onWire (io : InitIo) (evs : List Event) (i : Slot) (n : Nat) {a : Move}
    {w : List Move} (h : connection (historyAt io evs i n) = some (a, w))
    (hshut : ∀ k (hk : k < w.length), staysShut ((w.take k).any Move.cuts) w[k].answers = true) :
    OnWire w := by
  have hpart : ∀ k ≤ w.length, OnWire (w.take k) := by
    intro k hk
    induction k with
    | zero => exact ⟨fun _ hcalls => absurd hcalls List.not_mem_nil, .whole (List.Sublist.refl [])⟩
    | succ k ih =>
        have hmem : w[k] ∈ historyAt io evs i n := (window_subset h).2.2 (List.getElem_mem hk)
        obtain ⟨j, hj, hmove⟩ := List.getElem_of_mem (List.mem_of_mem_take hmem)
        rw [List.take_succ_eq_append_getElem hk]
        refine (ih (Nat.le_of_succ_le hk)).step ?_ ?_ (hshut k hk)
        · rw [← hmove]
          exact (history_turn io evs i j hj).2
        · intro _ _ _ hact
          exact history_setsFit io evs i (List.mem_of_mem_take hmem) hact
  have hall := hpart w.length (Nat.le_refl _)
  rwa [List.take_length] at hall

/-- A client sees whole messages, but for the last, on every connection whose
socket, once it has refused the rest of a message, takes nothing more. -/
theorem connection_framed (io : InitIo) (evs : List Event) (i : Slot) (n : Nat) {a : Move}
    {w : List Move} (h : connection (historyAt io evs i n) = some (a, w))
    (hshut : ∀ k (hk : k < w.length), staysShut ((w.take k).any Move.cuts) w[k].answers = true) :
    (∀ calls ∈ messages w, IsMessage (messageBytes calls)) ∧
      Framed ((messages w).map messageBytes) (wire w) := by
  have honWire := connection_onWire io evs i n h hshut
  exact ⟨honWire.isMessage, honWire.stands.framed⟩

/-- Three OPTIONS, with the answers of the socket to their replies. -/
def optionsRun (answers : Nat → List SendResult) : List Event :=
  let bytes := sampleRequest "OPTIONS" "*" 1 "" ++ sampleRequest "OPTIONS" "*" 2 "" ++
    sampleRequest "OPTIONS" "*" 3 ""
  [.poll { samplePoll 5 bytes with
    client := fun _ => { sampleClientIo bytes with
      request := fun n => { sampleRequestIo with reply := answers n } } }]

/-- The first reply is lost, the second sent in two steps and the last cut. -/
def endCutAnswers : Nat → List SendResult
  | 0 => [.failed]
  | 1 => [.took 7, .eintr]
  | _ => [.took 1, .failed]

theorem connection_framed_sample : ∃ a w,
    connection (historyAt sampleInit (optionsRun endCutAnswers) 0 5) = some (a, w) ∧
      (messages w).length = 3 ∧ Framed ((messages w).map messageBytes) (wire w) := by
  have hrun : (connection (historyAt sampleInit (optionsRun endCutAnswers) 0 5)).any (fun v =>
      decide ((messages v.2).length = 3 ∧ ∀ k (hk : k < v.2.length),
        staysShut ((v.2.take k).any Move.cuts) v.2[k].answers = true)) = true := by
    decide +kernel
  obtain ⟨⟨a, w⟩, h, hchecks⟩ := (Option.any_eq_true _ _).mp hrun
  obtain ⟨hlength, hshut⟩ := of_decide_eq_true hchecks
  exact ⟨a, w, h, hlength,
    (connection_framed sampleInit (optionsRun endCutAnswers) 0 5 h hshut).2⟩

/-- The first reply is cut after one byte, and the others follow. -/
def earlyCutAnswers : Nat → List SendResult
  | 0 => [.took 1, .failed]
  | _ => []

/-- The bytes are then not even framed by messages of the server's choice. -/
theorem cut_reply_is_followed : ¬ ∀ (io : InitIo) (evs : List Event) (i : Slot) (n : Nat)
    (a : Move) (w : List Move), connection (historyAt io evs i n) = some (a, w) →
    ∃ ms, (∀ m ∈ ms, IsMessage m) ∧ Framed ms (wire w) := by
  intro hall
  have hrun : (connection (historyAt sampleInit (optionsRun earlyCutAnswers) 0 5)).any
      (fun v => (wire v.2).take 2 == [82, 82]) = true := by decide +kernel
  obtain ⟨⟨a, w⟩, h, hstart⟩ := (Option.any_eq_true _ _).mp hrun
  obtain ⟨ms, hms, hframed⟩ := hall _ _ _ _ a w h
  have hwire := List.take_append_drop 2 (wire w)
  rw [beq_iff_eq.mp hstart] at hwire
  rw [← hwire] at hframed
  exact not_framed hms _ hframed

end Rtsp
end FH8852
