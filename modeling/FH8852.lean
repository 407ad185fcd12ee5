import FH8852.Rtsp.Streams
import FH8852.Rtsp.Access
import FH8852.Rtsp.Inbound
import FH8852.Rtsp.Wire
import FH8852.Rtsp.Delivery
import FH8852.Rtsp.Descriptors
import FH8852.Rtsp.Isolation
import FH8852.Rtsp.Overflow
import FH8852.Sensor.Agreement
import FH8852.Sensor.FrameTiming
import FH8852.Streamer.FrameEnd
import FH8852.Rtsp.Credentials
import FH8852.Rtsp.Transport
import FH8852.Rtsp.UdpPair
import FH8852.Rtsp.Describe
import FH8852.Rtsp.Formats
import FH8852.Rtsp.Timestamps
import FH8852.Rtsp.Metadata
import FH8852.Rtsp.Shadow
import FH8852.Isp.Malloc
import FH8852.Isp.Pool
import FH8852.Isp.WinParam
import FH8852.Isp.StatWin
import FH8852.Isp.Coverage
import FH8852.Isp.Divisors
import FH8852.Isp.Fields
import FH8852.Isp.HwInit
import FH8852.Sensor.Exposure
import FH8852.Sensor.Bus
import FH8852.Oracle.Load
import FH8852.Rtsp.Headers
import FH8852.Rtsp.Codec
import FH8852.Rtsp.Buffers
import FH8852.Rtsp.Reception
import FH8852.Oracle.Feed
import FH8852.Streamer.Stdout
import FH8852.Oracle.Compare
import FH8852.Sensor.Settings
import FH8852.Sensor.Device
