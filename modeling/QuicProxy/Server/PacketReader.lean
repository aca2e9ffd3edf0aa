import QuicProxy.Std.Buffers
import QuicProxy.Std.Bytes

/-!
# Reading the socket

`QuicProxyPacketReader` has sixteen buffers, which every `recvmmsg` call uses again, and
`QuicProxyServer::OnEvent` calls it until a batch is not full. A `ReadSlot` is a
`PacketData` with the header that points into it; the constructor sets the pointers and
nothing changes them. The log entries are left out, and with them the histogram.

Assumed of the kernel: `recvmmsg` returns the next datagrams in order, at most sixteen,
and a value that is not positive when there is none; it copies as much of each as the
header makes room for and, being called with `MSG_TRUNC`, reports the whole length.
-/

namespace QuicProxy

/-- `kNumPacketsPerReadMmsgCall` -/
def kNumPacketsPerReadMmsgCall : Nat := 16

/-- `kNumSessionsToCreatePerSocketEvent` -/
def kNumSessionsToCreatePerSocketEvent : Nat := 16

/-- What the code uses of the base libraries: three sizes, the constructor of
`QuicSocketAddress` from a `sockaddr_storage`, and what `QuicSocketUtils` reads in the
control data of a message. A time stamp of 0 is none. -/
structure SocketUtils (Ip Peer : Type) where
  kMaxV4PacketSize : Nat
  kCmsgSpaceForReadPacket : Nat
  sockaddrStorageSize : Nat
  peerAddress : Vector UInt8 sockaddrStorageSize → Peer
  selfIp : Bytes → Option Ip
  wallTimestamp : Bytes → Nat
  ttl : Bytes → Option Int
  overflow : Bytes → Option Nat

/-- A datagram on the socket: the address it comes from, as the kernel writes it, its
bytes, and its control data. -/
structure Datagram where
  name : Bytes
  payload : Bytes
  control : Bytes

/-- The two flags of a received message that are looked at. -/
structure MsgFlags where
  trunc : Bool
  ctrunc : Bool
deriving DecidableEq

variable {Ip Peer : Type}

/-- `packets_[i]` and `mmsg_hdr_[i]`. The length of its `iov` is that of `buf`. -/
structure ReadSlot (utils : SocketUtils Ip Peer) where
  rawAddress : Vector UInt8 utils.sockaddrStorageSize
  cbuf : Vector UInt8 utils.kCmsgSpaceForReadPacket
  buf : Vector UInt8 utils.kMaxV4PacketSize
  msgNamelen : Nat
  msgControllen : Nat
  msgFlags : MsgFlags
  msgLen : Nat

namespace ReadSlot

variable {utils : SocketUtils Ip Peer}

/-- A slot as the constructor leaves it. -/
def create (utils : SocketUtils Ip Peer) : ReadSlot utils where
  rawAddress := .replicate _ 0
  cbuf := .replicate _ 0
  buf := .replicate _ 0
  msgNamelen := utils.sockaddrStorageSize
  msgControllen := utils.kCmsgSpaceForReadPacket
  msgFlags := ⟨false, false⟩
  msgLen := 0

/-- The fields set again before each call of `recvmmsg`. -/
def reset (slot : ReadSlot utils) : ReadSlot utils :=
  { slot with
    msgNamelen := utils.sockaddrStorageSize
    msgControllen := utils.kCmsgSpaceForReadPacket
    msgFlags := ⟨false, false⟩ }

/-- What the kernel makes of a slot when it receives a datagram in it. -/
def receive (slot : ReadSlot utils) (datagram : Datagram) : ReadSlot utils where
  rawAddress := Buffer.overwrite slot.rawAddress (datagram.name.take slot.msgNamelen)
  cbuf := Buffer.overwrite slot.cbuf (datagram.control.take slot.msgControllen)
  buf := Buffer.overwrite slot.buf datagram.payload
  msgNamelen := datagram.name.length
  msgControllen := min slot.msgControllen datagram.control.length
  msgFlags := ⟨decide (utils.kMaxV4PacketSize < datagram.payload.length),
    decide (slot.msgControllen < datagram.control.length)⟩
  msgLen := datagram.payload.length

/-- The control data, as far as `msg_controllen` says. -/
def control (slot : ReadSlot utils) : Bytes := Buffer.front slot.cbuf slot.msgControllen

end ReadSlot

/-- A packet as the dispatcher is given it. -/
structure QuicReceivedPacket where
  data : Bytes
  length : Nat
  receiptTime : Nat
  ttl : Int
  ttlValid : Bool
deriving DecidableEq

/-- A call of `ProcessPacket`. The self address is an IP address and a port. -/
structure ProcessPacket (Ip Peer : Type) where
  selfAddress : Ip × Nat
  peerAddress : Peer
  packet : QuicReceivedPacket
deriving DecidableEq

/-- What the reader asks of its clock. -/
structure QuicClock where
  now : Nat
  convertWallTimeToQuicTime : Nat → Nat

/-- The sixteen slots of a reader. -/
abbrev QuicProxyPacketReader (utils : SocketUtils Ip Peer) :=
  Vector (ReadSlot utils) kNumPacketsPerReadMmsgCall

namespace QuicProxyPacketReader

variable (utils : SocketUtils Ip Peer)

/-- The constructor. -/
def create : QuicProxyPacketReader utils := .replicate _ (.create utils)

/-- `recvmmsg` returns the number of packets read, or `whenEmpty`; and what it leaves of
the queue. -/
def recvmmsg (whenEmpty : Int) (reader : QuicProxyPacketReader utils) (queue : List Datagram) :
    Int × QuicProxyPacketReader utils × List Datagram :=
  if queue = [] then (whenEmpty, reader, [])
  else
    (.ofNat (min kNumPacketsPerReadMmsgCall queue.length),
      Buffer.refill ReadSlot.receive reader queue, queue.drop kNumPacketsPerReadMmsgCall)

/-- The time of receipt of a packet, and the time for later ones without a time stamp. -/
def receiptTime (clock : QuicClock) (fallbackTimestamp wallTimestamp : Nat) : Nat × Nat :=
  if wallTimestamp = 0 then
    let fallbackTimestamp := if fallbackTimestamp = 0 then clock.now else fallbackTimestamp
    (fallbackTimestamp, fallbackTimestamp)
  else (clock.convertWallTimeToQuicTime wallTimestamp, fallbackTimestamp)

/-- The loop over the packets read. -/
def dispatch (port : Nat) (clock : QuicClock) (fallbackTimestamp : Nat) :
    List (ReadSlot utils) → List (ProcessPacket Ip Peer)
  | [] => []
  | slot :: rest =>
      if slot.msgLen = 0 then dispatch port clock fallbackTimestamp rest
      else if slot.msgFlags.ctrunc then dispatch port clock fallbackTimestamp rest
      else if slot.msgFlags.trunc then dispatch port clock fallbackTimestamp rest
      else
        match utils.selfIp slot.control with
        | none => dispatch port clock fallbackTimestamp rest
        | some selfIp =>
            let (timestamp, fallbackTimestamp) :=
              receiptTime clock fallbackTimestamp (utils.wallTimestamp slot.control)
            { selfAddress := (selfIp, port)
              peerAddress := utils.peerAddress slot.rawAddress
              packet := {
                data := Buffer.front slot.buf slot.msgLen
                length := slot.msgLen
                receiptTime := timestamp
                ttl := (utils.ttl slot.control).getD 0
                ttlValid := (utils.ttl slot.control).isSome } } ::
              dispatch port clock fallbackTimestamp rest

/-- What one call did. `packetsDropped` is absent where the pointer is null. -/
structure Outcome where
  moreToRead : Bool
  calls : List (ProcessPacket Ip Peer)
  packetsDropped : Option Nat
  reader : QuicProxyPacketReader utils
  queue : List Datagram

/-- `QuicProxyPacketReader::ReadAndDispatchPackets` -/
def readAndDispatchPackets (whenEmpty : Int) (port : Nat) (clock : QuicClock)
    (packetsDropped : Option Nat) (reader : QuicProxyPacketReader utils)
    (queue : List Datagram) : Outcome utils :=
  let (packetsRead, reader, queue) := recvmmsg utils whenEmpty (reader.map ReadSlot.reset) queue
  if packetsRead ≤ 0 then
    ⟨false, [], packetsDropped, reader, queue⟩
  else
    { moreToRead := packetsRead == kNumPacketsPerReadMmsgCall
      calls := dispatch utils port clock 0 (Buffer.front reader packetsRead.toNat)
      packetsDropped := packetsDropped.map fun dropped =>
        (utils.overflow (reader.get ⟨0, Nat.zero_lt_succ 15⟩).control).getD dropped
      reader := reader
      queue := queue }

end QuicProxyPacketReader

/-! ## The server -/

/-- A call on the dispatcher. -/
inductive DispatcherCall (Ip Peer : Type) where
  | processBufferedChlos (maxConnectionsToCreate : Nat)
  | processPacket (call : ProcessPacket Ip Peer)
  | onCanWrite
deriving DecidableEq

/-- `EPOLLIN` and `EPOLLOUT` in a set of events. -/
structure EventMask where
  epollIn : Bool
  epollOut : Bool
deriving DecidableEq

/-- What the dispatcher answers to `HasChlosBuffered` and `HasPendingWrites`. -/
structure DispatcherAnswers where
  hasChlosBuffered : Bool
  hasPendingWrites : Bool

/-- The server with the datagrams that wait on its socket and the calls made on its
dispatcher. -/
structure QuicProxyServer (utils : SocketUtils Ip Peer) where
  port : Nat
  overflowSupported : Bool
  packetsDropped : Nat
  packetReader : QuicProxyPacketReader utils
  socket : List Datagram
  calls : List (DispatcherCall Ip Peer)

namespace QuicProxyServer

variable {utils : SocketUtils Ip Peer}

/-- The server with more calls made to the dispatcher. -/
def call (server : QuicProxyServer utils) (calls : List (DispatcherCall Ip Peer)) :
    QuicProxyServer utils :=
  { server with calls := server.calls ++ calls }

/-- One round of the read loop. -/
def readOnce (whenEmpty : Int) (clock : QuicClock) (server : QuicProxyServer utils) :
    Bool × QuicProxyServer utils :=
  let packetsDropped := if server.overflowSupported then some server.packetsDropped else none
  let outcome := server.packetReader.readAndDispatchPackets utils whenEmpty server.port clock
    packetsDropped server.socket
  (outcome.moreToRead,
    { server with
      packetsDropped := outcome.packetsDropped.getD server.packetsDropped
      packetReader := outcome.reader
      socket := outcome.queue
      calls := server.calls ++ outcome.calls.map .processPacket })

/-- The read loop, each round with a clock of its own; without a result when `fuel` rounds
are not enough. -/
def readLoop (whenEmpty : Int) : Nat → (Nat → QuicClock) → QuicProxyServer utils →
    Option (QuicProxyServer utils)
  | 0, _, _ => none
  | fuel + 1, clocks, server =>
      let (moreToRead, next) := server.readOnce whenEmpty (clocks 0)
      if moreToRead then readLoop whenEmpty fuel (fun round => clocks (round + 1)) next
      else some next

/-- `QuicProxyServer::OnEvent`, with `out_ready_mask` as the second result. -/
def onEvent (whenEmpty : Int) (fuel : Nat) (clocks : Nat → QuicClock)
    (answers : DispatcherAnswers) (inEvents : EventMask) (server : QuicProxyServer utils) :
    Option (QuicProxyServer utils × EventMask) := do
  let read ←
    if inEvents.epollIn then
      (server.call [.processBufferedChlos kNumSessionsToCreatePerSocketEvent]).readLoop
        whenEmpty fuel clocks
    else some server
  let written := if inEvents.epollOut then read.call [.onCanWrite] else read
  some (written, ⟨inEvents.epollIn && answers.hasChlosBuffered,
    inEvents.epollOut && answers.hasPendingWrites⟩)

end QuicProxyServer

end QuicProxy
