import FH8852.Rtsp.Send

/-!
# Tracks, sessions and clients

Closing a track, resetting a session or a client, and opening the two sockets
of a UDP track.
-/

namespace FH8852
namespace Rtsp

open CLib

def closeFd (fd : Int) : List Out := if 0 ≤ fd then [.closed fd] else []

def openedFd (fd : Int) : List Out := if 0 ≤ fd then [.opened fd] else []

/-- A track as `track_close` and `client_init` leave it. -/
def closedTrack : RtspTrack :=
  { active := false, interleaved := false, rtpChannel := 0, rtcpChannel := 0
    rtpFd := -1, rtcpFd := -1, rtpAddr := ⟨0, 0⟩, rtcpAddr := ⟨0, 0⟩, ssrc := 0, seq := 0 }

def trackClose (t : RtspTrack) : RtspTrack × List Out :=
  (closedTrack, closeFd t.rtpFd ++ closeFd t.rtcpFd)

def sessionReset (c : RtspClient) : RtspClient × List Out :=
  ({ c with
      tracks := fun k => (trackClose (c.tracks k)).1
      hasSession := false
      playing := false
      waitingForSps := false },
    trackIds.flatMap fun k => (trackClose (c.tracks k)).2)

def clientInit : RtspClient :=
  { tcpFd := -1, loopback := false, streamId := 0, hasSession := false, sessionId := 0
    playing := false, waitingForSps := false, nextMetadataUs := 0
    tracks := fun _ => closedTrack, rxbuf := Buf.zero, rxlen := 0 }

def clientReset (c : RtspClient) : RtspClient × List Out :=
  (clientInit, (sessionReset c).2 ++ closeFd c.tcpFd)

/-- The loop of `bind_udp_pair`, with `left` rounds to go before round number
`i`.  The port is taken modulo 2 ^ 16 when the second socket is bound. -/
def bindUdpPairLoop (attempt : Nat → UdpAttempt) :
    (left i : Nat) → RtspTrack → Int × RtspTrack × List Out
  | 0, _, t => (-1, t, [])
  | left + 1, i, t =>
    let a := attempt i
    let again :=
      let rest := bindUdpPairLoop attempt left (i + 1) t
      (rest.1, rest.2.1,
        openedFd a.rtp ++ openedFd a.rtcp ++ closeFd a.rtp ++ closeFd a.rtcp ++ rest.2.2)
    if 0 ≤ a.rtp ∧ 0 ≤ a.rtcp ∧ a.bindRtp then
      match a.port with
      | none => again
      | some p =>
        if a.bindRtcp then
          (((p + 1).toNat : Int) - 1, { t with rtpFd := a.rtp, rtcpFd := a.rtcp },
            openedFd a.rtp ++ openedFd a.rtcp)
        else again
    else again

/-- `bind_udp_pair`: the port it returns, the track and the sockets it opened
and closed. -/
def bindUdpPair (attempt : Nat → UdpAttempt) (t : RtspTrack) : Int × RtspTrack × List Out :=
  bindUdpPairLoop attempt 16 0 t

end Rtsp
end FH8852
