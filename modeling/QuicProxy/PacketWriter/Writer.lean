import QuicProxy.Std.Bytes

/-!
# The buffering packet writer

`QuicProxyPacketWriter` copies each packet into a row of `writes_cache_`, queues
an entry that points at the row, and hands the queue to `sendmmsg` when it is
full or when the flush timer fires. One writer serves every connection of the
process. `writePacket`, `flush` and `SendMMsgTimer.onEvent` follow the source;
the two addresses of a packet are opaque. The source's `DCHECK`s are absent, as
they are from a release build.
-/

namespace QuicProxy

/-- `max_cache_buffer_write_size` -/
def maxCacheBufferWriteSize : Nat := 32

/-- `kEthernetMTU`, the width of a row of `writes_cache_`. -/
def kEthernetMTU : Nat := 1500

/-- Number of values of a `size_t`. -/
def sizeTModulus : Nat := UInt64.size

/-- `EAGAIN` -/
def eagain : Nat := 11

/-- A packet as `WritePacket` is given it. A longer one would be copied past its
row, which the language leaves undefined. -/
structure Packet (Self Peer : Type) where
  buffer : Bytes
  selfAddress : Self
  peerAddress : Peer
  fits : buffer.length ≤ kEthernetMTU
deriving DecidableEq

/-- A queue entry: `buffer` is the row `cpy_buffer` points at. -/
structure BufferedWrite (Self Peer : Type) where
  buffer : Nat
  bufLen : Nat
  selfAddress : Self
  peerAddress : Peer
  fits : bufLen ≤ kEthernetMTU

/-- `WriteStatus` of QUIC, as far as the writer answers with it. -/
inductive WriteStatus where
  | ok
  | blocked
  | blockedDataBuffered
  | error
deriving DecidableEq

/-- `value` is the union of `bytes_written` and `error_code`. -/
structure WriteResult where
  status : WriteStatus
  value : Nat
deriving DecidableEq

/-- `IsWriteBlockedStatus` -/
def isWriteBlockedStatus : WriteStatus → Bool
  | .blocked | .blockedDataBuffered => true
  | .ok | .error => false

/-- What the kernel does with one batch: it takes `more + 1` packets from the
front, as far as there are that many, or none. -/
inductive SendReply where
  | accepted (more : Nat)
  | again
  | failed (errno : Nat)
deriving DecidableEq

variable {Self Peer : Type}

/-- The kernel's answer to each batch it may be offered. -/
abbrev Kernel (Self Peer : Type) := List (Packet Self Peer) → SendReply

/-- Assumed of `QuicLinuxSocketUtils::WriteMultiplePackets`: it sends a non-empty
prefix and reports its bytes, or sends nothing and is blocked or fails. Returns
the result and `num_packets_sent`. -/
def writeMultiplePackets (batch : List (Packet Self Peer)) : SendReply → WriteResult × Nat
  | .accepted more =>
      let sent := min (more + 1) batch.length
      (⟨.ok, ((batch.take sent).flatMap Packet.buffer).length⟩, sent)
  | .again => (⟨.blocked, eagain⟩, 0)
  | .failed errno => (⟨.error, errno⟩, 0)

/-- `writesCache row column` is a byte of the ring; `writesCachePos` counts the
copies made, as a `size_t`. -/
structure QuicProxyPacketWriter (Self Peer : Type) where
  bufferedWrites : List (BufferedWrite Self Peer)
  writesCache : Nat → Nat → UInt8
  writesCachePos : Nat
  writeBlocked : Bool

namespace QuicProxyPacketWriter

/-- The constructor. The ring itself is left uninitialised by the source. -/
def create (writesCache : Nat → Nat → UInt8) : QuicProxyPacketWriter Self Peer :=
  ⟨[], writesCache, 0, false⟩

/-- The packet an entry denotes, read from the ring as it is now. -/
def read (writer : QuicProxyPacketWriter Self Peer) (entry : BufferedWrite Self Peer) :
    Packet Self Peer where
  buffer := (List.range entry.bufLen).map (writer.writesCache entry.buffer)
  selfAddress := entry.selfAddress
  peerAddress := entry.peerAddress
  fits := by simpa using entry.fits

/-- The queued packets, read from the ring as they are now. -/
def queued (writer : QuicProxyPacketWriter Self Peer) : List (Packet Self Peer) :=
  writer.bufferedWrites.map writer.read

/-- What one call did: its result, the packets it handed to the socket, the row
it overwrote if any, and the writer afterwards. -/
structure Outcome (Self Peer : Type) where
  result : WriteResult
  handed : List (Packet Self Peer)
  overwritten : Option Nat
  writer : QuicProxyPacketWriter Self Peer

/-- `buffered_writes_.erase` of the packets that were sent. -/
def eraseFront (sent : Nat) (writer : QuicProxyPacketWriter Self Peer) :
    QuicProxyPacketWriter Self Peer :=
  { writer with bufferedWrites := writer.bufferedWrites.drop sent }

/-- `QuicProxyPacketWriter::Flush` -/
def flush (kernel : Kernel Self Peer) (writer : QuicProxyPacketWriter Self Peer) :
    Outcome Self Peer :=
  if writer.bufferedWrites = [] then
    ⟨⟨.ok, 0⟩, [], none, writer⟩
  else
    let (result, numPacketsSent) := writeMultiplePackets writer.queued (kernel writer.queued)
    ⟨result, writer.queued.take numPacketsSent, none, writer.eraseFront numPacketsSent⟩

/-- `writes_cache_pos_%max_cache_buffer_write_size` -/
def nextRow (writer : QuicProxyPacketWriter Self Peer) : Nat :=
  writer.writesCachePos % maxCacheBufferWriteSize

/-- `memcpy`, the step of the write position and `emplace_back`. -/
def enqueue (packet : Packet Self Peer) (writer : QuicProxyPacketWriter Self Peer) :
    QuicProxyPacketWriter Self Peer where
  bufferedWrites := writer.bufferedWrites ++
    [⟨writer.nextRow, packet.buffer.length, packet.selfAddress, packet.peerAddress, packet.fits⟩]
  writesCache row column :=
    if row = writer.nextRow then packet.buffer.getD column (writer.writesCache row column)
    else writer.writesCache row column
  writesCachePos := (writer.writesCachePos + 1) % sizeTModulus
  writeBlocked := writer.writeBlocked

/-- `buffered_writes_.size() >= max_cache_buffer_write_size` -/
def full (writer : QuicProxyPacketWriter Self Peer) : Prop :=
  maxCacheBufferWriteSize ≤ writer.bufferedWrites.length

instance (writer : QuicProxyPacketWriter Self Peer) : Decidable writer.full :=
  inferInstanceAs (Decidable (_ ≤ _))

/-- `set_write_blocked` -/
def setWriteBlocked (blocked : Bool) (writer : QuicProxyPacketWriter Self Peer) :
    QuicProxyPacketWriter Self Peer :=
  { writer with writeBlocked := blocked }

/-- The part of `WritePacket` after the copy: a queue that has become full is
sent at once. -/
def finishWrite (packet : Packet Self Peer) (kernel : Kernel Self Peer)
    (handed : List (Packet Self Peer)) (row : Nat) (writer : QuicProxyPacketWriter Self Peer) :
    Outcome Self Peer :=
  if writer.full then
    let sent := writer.flush kernel
    if isWriteBlockedStatus sent.result.status then
      ⟨sent.result, handed ++ sent.handed, some row, sent.writer.setWriteBlocked true⟩
    else
      ⟨⟨.ok, packet.buffer.length⟩, handed ++ sent.handed, some row, sent.writer⟩
  else
    ⟨⟨.ok, packet.buffer.length⟩, handed, some row, writer⟩

/-- The flush `WritePacket` makes before it copies: only where the queue is full. -/
def firstFlush (kernel : Kernel Self Peer) (writer : QuicProxyPacketWriter Self Peer) :
    Outcome Self Peer :=
  if writer.full then writer.flush kernel else ⟨⟨.ok, 0⟩, [], none, writer⟩

/-- `QuicProxyPacketWriter::WritePacket`. `before` and `after` answer the flush
made before and the one made after the packet is copied. -/
def writePacket (packet : Packet Self Peer) (before after : Kernel Self Peer)
    (writer : QuicProxyPacketWriter Self Peer) : Outcome Self Peer :=
  let first := writer.firstFlush before
  if first.writer.full then
    ⟨⟨.blocked, eagain⟩, first.handed, none, first.writer.setWriteBlocked true⟩
  else
    (first.writer.enqueue packet).finishWrite packet after first.handed first.writer.nextRow

/-- `SetWritable` of the base class. -/
def setWritable (writer : QuicProxyPacketWriter Self Peer) : QuicProxyPacketWriter Self Peer :=
  writer.setWriteBlocked false

end QuicProxyPacketWriter

/-- `SendMMsgTimer::OnEvent`: it returns early only where reading the timer's
descriptor would block. -/
def SendMMsgTimer.onEvent (readWouldBlock : Bool) (kernel : Kernel Self Peer)
    (writer : QuicProxyPacketWriter Self Peer) : QuicProxyPacketWriter.Outcome Self Peer :=
  if readWouldBlock then ⟨⟨.ok, 0⟩, [], none, writer⟩ else writer.flush kernel

end QuicProxy
