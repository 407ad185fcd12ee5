import FH8852.Oracle.Feed
import FH8852.Streamer.Loop

/-!
# The standard output

`main` copies the NALs of channel 0 to its standard output.  A recording of it is a file
for `replay.c`, which finds in it the NALs that the RTSP server was given.
-/

namespace FH8852
namespace Streamer

open CLib Rtsp Dialogue AnnexB

/-! ## What the output holds -/

end Streamer
end FH8852
