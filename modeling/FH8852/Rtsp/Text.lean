import FH8852.Rtsp.Types

/-!
# Texts

The parts of `rtsp_server.c` that read and write text: base64, header lines,
the stream a URI names, and the texts of the replies.
-/

namespace FH8852
namespace Rtsp

open CLib

def crlf : Bytes := ascii "\r\n"

/-- The terminator of a request. -/
def blankLine : Bytes := ascii "\r\n\r\n"

/-! ## Base64 -/

def b64Tab : Bytes := ascii "ABCDEFGHIJKLMNOPQRSTUVWXYZabcdefghijklmnopqrstuvwxyz0123456789+/"

def b64Char (v : UInt32) : UInt8 := b64Tab.getD (v &&& 0x3f).toNat 0

def base64Encode : Bytes → Bytes
  | [] => []
  | [a] =>
    let v := a.toUInt32 <<< 16
    [b64Char (v >>> 18), b64Char (v >>> 12), 61, 61]
  | [a, b] =>
    let v := a.toUInt32 <<< 16 ||| b.toUInt32 <<< 8
    [b64Char (v >>> 18), b64Char (v >>> 12), b64Char (v >>> 6), 61]
  | a :: b :: c :: rest =>
    let v := a.toUInt32 <<< 16 ||| b.toUInt32 <<< 8 ||| c.toUInt32
    b64Char (v >>> 18) :: b64Char (v >>> 12) :: b64Char (v >>> 6) :: b64Char v ::
      base64Encode rest

def b64Val (c : UInt8) : Option UInt32 :=
  if c = 0 then none else (b64Tab.idxOf? c).map UInt32.ofNat

/-- The loop of `base64_decode`.  Once `out` is full, `bits` only grows. -/
def base64DecodeLoop (cap : Nat) : Bytes → UInt32 → Nat → Bytes → Bytes
  | [], _, _, out => out
  | c :: rest, acc, bits, out =>
    if c = 0 ∨ c = 61 then out
    else match b64Val c with
      | none => base64DecodeLoop cap rest acc bits out
      | some v =>
        let acc := acc <<< 6 ||| v
        if 8 ≤ bits + 6 ∧ out.length + 1 < cap then
          base64DecodeLoop cap rest acc (bits - 2)
            (out ++ [(acc >>> UInt32.ofNat (bits - 2)).toUInt8])
        else base64DecodeLoop cap rest acc (bits + 6) out

/-- The bytes `base64_decode` writes before its NUL. -/
def base64Decode (text : Bytes) (cap : Nat) : Bytes := base64DecodeLoop cap text 0 0 []

/-! ## Requests -/

/-- What follows each CRLF, in order: the values `line + 2` takes in the loop of
`header_value`. -/
def lineStarts : Bytes → List Bytes
  | 13 :: 10 :: rest => rest :: lineStarts rest
  | _ :: rest => lineStarts rest
  | [] => []

theorem lineStarts_line {line : Bytes} (hline : (13 : UInt8) ∉ line) (rest : Bytes) :
    lineStarts (line ++ (crlf ++ rest)) = rest :: lineStarts rest := by
  induction line with
  | nil => rfl
  | cons c line ih =>
      rw [List.mem_cons, not_or] at hline
      rw [List.cons_append, lineStarts, ih hline.2]
      intro _ hc
      exact absurd hc.symm hline.1

theorem takeWhile_cr {value : Bytes} (h : (13 : UInt8) ∉ value) (rest : Bytes) :
    (value ++ (crlf ++ rest)).takeWhile (· ≠ 13) = value := by
  have hkept : ∀ b ∈ value, decide (b ≠ 13) = true := fun b hb =>
    decide_eq_true fun hcr => h (hcr ▸ hb)
  rw [List.takeWhile_append_of_pos hkept]
  exact List.append_nil value

/-- `p` begins with the header name and a colon. -/
def isHeader (name p : Bytes) : Bool :=
  startsWithNoCase name p && (p.drop name.length).head? == some 58

/-- The value of the header line that starts at `p`, not cut to any capacity. -/
def lineValue (name p : Bytes) : Bytes :=
  ((p.drop (name.length + 1)).dropWhile (· == 32)).takeWhile (· ≠ 13)

/-- The whole value of the first header of that name. -/
def headerField (req name : Bytes) : Option Bytes :=
  ((lineStarts req).find? (isHeader name)).map (lineValue name)

/-- `header_value`: the string it writes into `out`, or `none` when it returns
0. -/
def headerValue (req name : Bytes) (cap : Nat) : Option Bytes :=
  (headerField req name).map fun value => value.take (cap - 1)

/-- The method and the URI that `sscanf(req, "%31s %255s", method, uri)` reads. -/
def requestMethod (req : Bytes) : Bytes := (scanWord 31 req).1

def requestUri (req : Bytes) : Bytes := (scanWord 255 (scanWord 31 req).2).1

/-- `cseq` in `handle_request`. -/
def requestCseq (req : Bytes) : Bytes := (headerValue req (ascii "CSeq") 32).getD []

/-- `transport` in `handle_setup`. -/
def requestTransport (req : Bytes) : Bytes := (headerValue req (ascii "Transport") 256).getD []

def streamSlots : Nat := 3

def streamOf (uri : Bytes) : Nat :=
  match strstr (ascii "stream=") uri with
  | none => 0
  | some p =>
    let s := atoi (p.drop 7)
    if s < 0 ∨ (streamSlots : Int) ≤ s then 0 else s.toNat

def endsWith (s suffix : Bytes) : Bool := suffix.isSuffixOf s

/-- The track a SETUP of `uri` is about. -/
def trackOf (uri : Bytes) : TrackId :=
  if endsWith uri (ascii "metadata") then .metadata else .video

/-- The two numbers of `interleaved=%u-%u` or `client_port=%u-%u`, read from the
text after the equals sign. -/
def scanPair (s : Bytes) : Nat × Nat :=
  match scanUnsigned s with
  | none => (0, 1)
  | some (a, 45 :: rest) =>
    match scanUnsigned rest with
    | none => (a, (a + 1) % 2 ^ 32)
    | some (b, _) => (a, b)
  | some (a, _) => (a, (a + 1) % 2 ^ 32)

/-! ## Replies -/

def serverName : Bytes := ascii "OpenIPC.org RTSP Server/0.1"

/-- The text `reply` formats. -/
def replyText (status cseq extra : Bytes) : Bytes :=
  ascii "RTSP/1.0 " ++ status ++ ascii "\r\nCSeq: " ++ cseq ++ ascii "\r\nServer: " ++ serverName ++
    crlf ++ extra ++ crlf

/-- The session description `handle_describe` formats for a stream. -/
def sdpText (s : Nat) (sps : Buf) (sps64 pps64 : Bytes) (fps : UInt32) : Bytes :=
  ascii "v=0\r\no=OpenIPC 0 0 IN IP4 0.0.0.0\r\ns=Majestic\r\nc=IN IP4 0.0.0.0\r\nt=0 0\r\n" ++
    ascii "m=video 0 RTP/AVP 96\r\na=control:video\r\na=rtpmap:96 H264/90000\r\n" ++
    ascii "a=fmtp:96 profile-level-id=" ++
    hexByte (sps 1) ++ hexByte (sps 2) ++ hexByte (sps 3) ++
    ascii ";packetization-mode=1;sprop-parameter-sets=" ++ sps64 ++ ascii "," ++ pps64 ++ crlf ++
    ascii "a=framerate:" ++ decimal fps.toNat ++ crlf ++
    if s = 0 then
      ascii "m=application 0 RTP/AVP 107\r\na=rtpmap:107 vnd.onvif.metadata/90000\r\n" ++
        ascii "a=control:metadata\r\n"
    else []

/-- The reply head `handle_describe` formats. -/
def describeText (cseq uri sdp : Bytes) : Bytes :=
  ascii "RTSP/1.0 200 OK\r\nCSeq: " ++ cseq ++ ascii "\r\nContent-Length: " ++ decimal sdp.length ++
    ascii "\r\nServer: " ++ serverName ++ ascii "\r\nContent-Base: " ++ uri ++
    ascii "\r\nContent-Type: application/sdp\r\n\r\n"

def okStatus (status : Bytes) : Bool := status.take 3 == ascii "200"

namespace Reply

/-- What is handed to `send_all`, call by call. -/
def parts : Reply → List Bytes
  | plain status cseq extra => [snprintf 512 (replyText status cseq extra)]
  | described cseq uri sdp => [snprintf 512 (describeText cseq uri sdp), snprintf 1024 sdp]

def bytes (r : Reply) : Bytes := r.parts.flatten

def status : Reply → Bytes
  | plain status _ _ => status
  | described .. => ascii "200 OK"

def cseq : Reply → Bytes
  | plain _ cseq _ => cseq
  | described cseq _ _ => cseq

/-- Whether the reply's status is 200. -/
def isOk (r : Reply) : Bool := okStatus r.status

end Reply
end Rtsp
end FH8852
