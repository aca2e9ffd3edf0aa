import QuicProxy.Semantics.Execution
import QuicProxy.Std.RingWindow
import QuicProxy.Std.Bytes
import QuicProxy.PacketWriter.Writer
import QuicProxy.Std.Fifo
import QuicProxy.PacketWriter.Ring
import QuicProxy.PacketWriter.Delivery
import QuicProxy.PacketWriter.Resubmission
import QuicProxy.Curl.HeaderBlock
import QuicProxy.Curl.ProxyCurl
import QuicProxy.PacketWriter.Refusal
import QuicProxy.Curl.Exchange
import QuicProxy.Curl.Delivery
import QuicProxy.Curl.ResponseEnd
import QuicProxy.Curl.Completion
import QuicProxy.Curl.RequestHeaders
import QuicProxy.Backend.Backend
import QuicProxy.Backend.Links
import QuicProxy.Backend.Pointers
import QuicProxy.Backend.Frames
import QuicProxy.Backend.Registration
import QuicProxy.Backend.Sockets
import QuicProxy.Backend.Failure
import QuicProxy.Curl.Detached
import QuicProxy.Curl.HeaderSlice
import QuicProxy.Std.Weights
import QuicProxy.Curl.ResponseLines
import QuicProxy.Curl.ResponseFields
import QuicProxy.Curl.PseudoHeaders
import QuicProxy.Curl.RealIp
import QuicProxy.Curl.Upload
import QuicProxy.Backend.StartUp
import QuicProxy.Backend.Origin
import QuicProxy.Http.Url
import QuicProxy.Server.Processes
import QuicProxy.Server.Supervision
import QuicProxy.Std.Timerfd
import QuicProxy.Backend.EventLoop
import QuicProxy.Backend.CurlTimer
import QuicProxy.Backend.Stages
import QuicProxy.Backend.Ownership
import QuicProxy.Backend.Retirement
import QuicProxy.PacketWriter.Flushing
import QuicProxy.Server.FlushTimer
import QuicProxy.Curl.Chunking
import QuicProxy.Curl.UploadReads
import QuicProxy.Server.PacketReader
import QuicProxy.Server.ReadLoop
import QuicProxy.Backend.Bystanders
import QuicProxy.Backend.Crashes
import QuicProxy.Backend.Forwarding
import QuicProxy.Backend.Leaks
import QuicProxy.PacketWriter.PlainQueue
import QuicProxy.PacketWriter.Progress
import QuicProxy.Backend.BodyEdits
import QuicProxy.Backend.Handles
import QuicProxy.Backend.Layers
import QuicProxy.Backend.Uploads
import QuicProxy.Server.SocketLoop
import QuicProxy.Server.Workers
import QuicProxy.Server.FlushRounds
import QuicProxy.Backend.Markings
import QuicProxy.Backend.Timeouts
import QuicProxy.Backend.WholeBodies
import QuicProxy.PacketWriter.Isolation
import QuicProxy.Server.Dispatches
import QuicProxy.Server.Fallen
