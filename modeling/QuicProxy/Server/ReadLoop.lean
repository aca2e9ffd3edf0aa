import QuicProxy.Server.PacketReader

/-!
# Every datagram is dispatched once

What a datagram leads to by itself is `Datagram.dispatched`. A slot that is reset and then
receives it leads to the same, whatever an earlier batch has left in the slot
(`slotCall_receive`), one round of the loop does so with the next sixteen
(`readOnce_spec`), and the whole loop with all of them (`drains_and_dispatches`).
-/

namespace QuicProxy

variable {Ip Peer : Type} {utils : SocketUtils Ip Peer}

/-- The kernel's address fits a `sockaddr_storage`, and `QuicSocketAddress` reads nothing
behind it. -/
structure Datagram.Addressed (utils : SocketUtils Ip Peer) (datagram : Datagram) : Prop where
  fits : datagram.name.length ≤ utils.sockaddrStorageSize
  alone : ∀ before after, utils.peerAddress (Buffer.overwrite before datagram.name) =
    utils.peerAddress (Buffer.overwrite after datagram.name)

/-- It is not empty, fits the buffers, and has a self address. -/
structure Datagram.Acceptable (utils : SocketUtils Ip Peer) (datagram : Datagram) : Prop where
  nonempty : datagram.payload ≠ []
  whole : datagram.payload.length ≤ utils.kMaxV4PacketSize
  wholeControl : datagram.control.length ≤ utils.kCmsgSpaceForReadPacket
  selfAddress : (utils.selfIp datagram.control).isSome

/-- The call of `ProcessPacket` without its time of receipt. -/
def ProcessPacket.untimed (call : ProcessPacket Ip Peer) : ProcessPacket Ip Peer :=
  { call with packet.receiptTime := 0 }

/-- What a datagram leads to by itself, apart from the time of receipt. -/
def Datagram.dispatched (utils : SocketUtils Ip Peer) (port : Nat) (datagram : Datagram) :
    Option (ProcessPacket Ip Peer) :=
  if datagram.payload ≠ [] ∧ datagram.payload.length ≤ utils.kMaxV4PacketSize ∧
      datagram.control.length ≤ utils.kCmsgSpaceForReadPacket then
    (utils.selfIp datagram.control).map fun selfIp =>
      { selfAddress := (selfIp, port)
        peerAddress := utils.peerAddress (Buffer.overwrite (.replicate _ 0) datagram.name)
        packet := {
          data := datagram.payload
          length := datagram.payload.length
          receiptTime := 0
          ttl := (utils.ttl datagram.control).getD 0
          ttlValid := (utils.ttl datagram.control).isSome } }
  else none

/-- An acceptable datagram is dispatched, and no other. -/
theorem Datagram.dispatched_isSome {port : Nat} {datagram : Datagram} :
    (datagram.dispatched utils port).isSome ↔ datagram.Acceptable utils := by
  unfold dispatched
  constructor
  · intro isSome
    split at isSome
    · next fits =>
        rw [Option.isSome_map] at isSome
        exact ⟨fits.1, fits.2.1, fits.2.2, isSome⟩
    · cases isSome
  · rintro ⟨nonempty, whole, wholeControl, selfAddress⟩
    rwa [if_pos ⟨nonempty, whole, wholeControl⟩, Option.isSome_map]

/-! ## One slot -/

namespace QuicProxyPacketReader

/-- What the loop over the packets makes of one slot, apart from the time of receipt. -/
def slotCall (utils : SocketUtils Ip Peer) (port : Nat) (slot : ReadSlot utils) :
    Option (ProcessPacket Ip Peer) :=
  if slot.msgLen ≠ 0 ∧ slot.msgFlags = ⟨false, false⟩ then
    (utils.selfIp slot.control).map fun selfIp =>
      { selfAddress := (selfIp, port)
        peerAddress := utils.peerAddress slot.rawAddress
        packet := {
          data := Buffer.front slot.buf slot.msgLen
          length := slot.msgLen
          receiptTime := 0
          ttl := (utils.ttl slot.control).getD 0
          ttlValid := (utils.ttl slot.control).isSome } }
  else none

/-- What is dispatched depends on the slots alone, apart from the times. -/
theorem dispatch_untimed (port : Nat) (clock : QuicClock) (fallbackTimestamp : Nat)
    (slots : List (ReadSlot utils)) :
    (dispatch utils port clock fallbackTimestamp slots).map ProcessPacket.untimed =
      slots.filterMap (slotCall utils port) := by
  induction slots generalizing fallbackTimestamp with
  | nil => rfl
  | cons slot rest ih =>
      rcases flags : slot.msgFlags with ⟨trunc, ctrunc⟩
      rw [dispatch, List.filterMap_cons, slotCall, flags]
      by_cases empty : slot.msgLen = 0
      · simp [empty, ih]
      · cases ctrunc with
        | true => simp [empty, ih]
        | false =>
            cases trunc with
            | true => simp [empty, ih]
            | false =>
                cases self : utils.selfIp slot.control with
                | none => simp [empty, ih]
                | some selfIp => simp [empty, ih, ProcessPacket.untimed]

/-- The tests of the loop are those of the datagram. -/
theorem receive_kept_iff (slot : ReadSlot utils) (datagram : Datagram) :
    ((slot.reset.receive datagram).msgLen ≠ 0 ∧
        (slot.reset.receive datagram).msgFlags = ⟨false, false⟩) ↔
      datagram.payload ≠ [] ∧ datagram.payload.length ≤ utils.kMaxV4PacketSize ∧
        datagram.control.length ≤ utils.kCmsgSpaceForReadPacket := by
  change (datagram.payload.length ≠ 0 ∧ MsgFlags.mk
      (decide (utils.kMaxV4PacketSize < datagram.payload.length))
      (decide (utils.kCmsgSpaceForReadPacket < datagram.control.length)) = ⟨false, false⟩) ↔ _
  simp

/-- Ancillary data that fits is delivered whole. -/
theorem control_receive (slot : ReadSlot utils) {datagram : Datagram}
    (whole : datagram.control.length ≤ utils.kCmsgSpaceForReadPacket) :
    (slot.reset.receive datagram).control = datagram.control := by
  simp only [ReadSlot.control, ReadSlot.receive, ReadSlot.reset, List.take_of_length_le whole,
    Nat.min_eq_right whole]
  exact Buffer.front_overwrite slot.cbuf whole

/-- A slot that is reset receives a datagram as any other would. -/
theorem slotCall_receive (port : Nat) (slot : ReadSlot utils) {datagram : Datagram}
    (addressed : datagram.Addressed utils) :
    slotCall utils port (slot.reset.receive datagram) = datagram.dispatched utils port := by
  unfold slotCall Datagram.dispatched
  simp only [receive_kept_iff]
  by_cases kept : datagram.payload ≠ [] ∧ datagram.payload.length ≤ utils.kMaxV4PacketSize ∧
      datagram.control.length ≤ utils.kCmsgSpaceForReadPacket
  · have data : Buffer.front (slot.reset.receive datagram).buf
        (slot.reset.receive datagram).msgLen = datagram.payload :=
      Buffer.front_overwrite slot.buf kept.2.1
    have peer : utils.peerAddress (slot.reset.receive datagram).rawAddress =
        utils.peerAddress (Buffer.overwrite (.replicate _ 0) datagram.name) := by
      rw [← addressed.alone slot.rawAddress]
      simp only [ReadSlot.receive, ReadSlot.reset, List.take_of_length_le addressed.fits]
    rw [if_pos kept, if_pos kept, control_receive slot kept.2.2, data, peer]
    rfl
  · rw [if_neg kept, if_neg kept]

/-! ## One round -/

/-- A call that finds fewer than sixteen datagrams, or none, says that there is nothing more
to read. -/
theorem readAndDispatch_spec (whenEmpty : Int) (nonPositive : whenEmpty ≤ 0) (port : Nat)
    (clock : QuicClock) (packetsDropped : Option Nat) (reader : QuicProxyPacketReader utils)
    (queue : List Datagram) (addressed : ∀ datagram ∈ queue, datagram.Addressed utils) :
    let outcome := readAndDispatchPackets utils whenEmpty port clock packetsDropped reader queue
    outcome.moreToRead = decide (kNumPacketsPerReadMmsgCall ≤ queue.length) ∧
      outcome.queue = queue.drop kNumPacketsPerReadMmsgCall ∧
      outcome.calls.map ProcessPacket.untimed =
        (queue.take kNumPacketsPerReadMmsgCall).filterMap (Datagram.dispatched utils port) := by
  by_cases empty : queue = []
  · subst empty
    simp [readAndDispatchPackets, recvmmsg, nonPositive, kNumPacketsPerReadMmsgCall]
  · have some : 0 < queue.length := List.length_pos_iff.mpr empty
    have positive : ¬ (Int.ofNat (min kNumPacketsPerReadMmsgCall queue.length)) ≤ 0 := by
      simp only [kNumPacketsPerReadMmsgCall, Int.ofNat_eq_natCast]
      omega
    simp only [readAndDispatchPackets, recvmmsg, if_neg empty, if_neg positive]
    refine ⟨?_, trivial, ?_⟩
    · rw [Bool.eq_iff_iff, beq_iff_eq, decide_eq_true_iff]
      simp only [kNumPacketsPerReadMmsgCall, Int.ofNat_eq_natCast]
      omega
    · have gives : ∀ slot ∈ reader.toList, ∀ datagram ∈ queue,
          slotCall utils port (slot.reset.receive datagram) = datagram.dispatched utils port :=
        fun slot _ datagram member => slotCall_receive port slot (addressed datagram member)
      have batch := Buffer.filterMap_zipWith gives
      have count : (Int.ofNat (min kNumPacketsPerReadMmsgCall queue.length)).toNat =
          min kNumPacketsPerReadMmsgCall queue.length := rfl
      rw [dispatch_untimed, count, Buffer.front_refill, Vector.toList_map,
        List.zipWith_map_left, batch, Vector.length_toList]

end QuicProxyPacketReader

/-! ## The loop -/

namespace QuicProxyServer

/-- One round takes the next sixteen datagrams and dispatches each as it should be. -/
theorem readOnce_spec (whenEmpty : Int) (nonPositive : whenEmpty ≤ 0) (clock : QuicClock)
    (server : QuicProxyServer utils)
    (addressed : ∀ datagram ∈ server.socket, datagram.Addressed utils) :
    (server.readOnce whenEmpty clock).1 =
        decide (kNumPacketsPerReadMmsgCall ≤ server.socket.length) ∧
      (server.readOnce whenEmpty clock).2.port = server.port ∧
      (server.readOnce whenEmpty clock).2.socket =
        server.socket.drop kNumPacketsPerReadMmsgCall ∧
      ∃ calls : List (ProcessPacket Ip Peer),
        (server.readOnce whenEmpty clock).2.calls = server.calls ++ calls.map .processPacket ∧
          calls.map ProcessPacket.untimed =
            (server.socket.take kNumPacketsPerReadMmsgCall).filterMap
              (Datagram.dispatched utils server.port) := by
  obtain ⟨more, queue, calls⟩ := QuicProxyPacketReader.readAndDispatch_spec whenEmpty nonPositive
    server.port clock (if server.overflowSupported then some server.packetsDropped else none)
    server.packetReader server.socket addressed
  exact ⟨more, rfl, queue, _, rfl, calls⟩

/-- The loop ends with the round whose batch is not full, and nothing is left then. -/
theorem readLoop_spec (whenEmpty : Int) (nonPositive : whenEmpty ≤ 0) (fuel : Nat)
    (clocks : Nat → QuicClock) (server : QuicProxyServer utils)
    (enough : server.socket.length / kNumPacketsPerReadMmsgCall < fuel)
    (addressed : ∀ datagram ∈ server.socket, datagram.Addressed utils) :
    ∃ final, server.readLoop whenEmpty fuel clocks = some final ∧ final.socket = [] ∧
      ∃ calls : List (ProcessPacket Ip Peer),
        final.calls = server.calls ++ calls.map .processPacket ∧
          calls.map ProcessPacket.untimed =
            server.socket.filterMap (Datagram.dispatched utils server.port) := by
  induction fuel generalizing clocks server with
  | zero => cases enough
  | succ fuel ih =>
      obtain ⟨more, port, socket, calls, made, batch⟩ :=
        readOnce_spec whenEmpty nonPositive (clocks 0) server addressed
      rw [readLoop]
      simp only [more]
      by_cases full : kNumPacketsPerReadMmsgCall ≤ server.socket.length
      · have fewer : (server.socket.drop kNumPacketsPerReadMmsgCall).length /
            kNumPacketsPerReadMmsgCall < fuel := by
          rw [List.length_drop]
          simp only [kNumPacketsPerReadMmsgCall] at enough full ⊢
          omega
        have still : ∀ datagram ∈ server.socket.drop kNumPacketsPerReadMmsgCall,
            datagram.Addressed utils :=
          fun datagram member => addressed datagram (List.mem_of_mem_drop member)
        rw [← socket] at fewer still
        obtain ⟨final, ended, drained, others, finalCalls, rest⟩ :=
          ih (fun round => clocks (round + 1)) (server.readOnce whenEmpty (clocks 0)).2 fewer still
        refine ⟨final, ?_, drained, calls ++ others, ?_, ?_⟩
        · rw [if_pos (decide_eq_true full), ended]
        · rw [finalCalls, made, List.map_append, List.append_assoc]
        · rw [List.map_append, batch, rest, socket, port, ← List.filterMap_append,
            List.take_append_drop]
      · have all : server.socket.length ≤ kNumPacketsPerReadMmsgCall := by omega
        refine ⟨_, if_neg (by simp [full]), ?_, calls, made, ?_⟩
        · rw [socket, List.drop_eq_nil_of_le all]
        · rw [batch, List.take_of_length_le all]

/-- More rounds than the loop makes do not change what it does. -/
theorem readLoop_succ (whenEmpty : Int) {fuel : Nat} {clocks : Nat → QuicClock}
    {server final : QuicProxyServer utils}
    (ended : server.readLoop whenEmpty fuel clocks = some final) :
    server.readLoop whenEmpty (fuel + 1) clocks = some final := by
  induction fuel generalizing clocks server with
  | zero => cases ended
  | succ fuel ih =>
      rw [readLoop] at ended ⊢
      simp only at ended ⊢
      split
      · next more =>
          rw [if_pos more] at ended
          exact ih ended
      · next done =>
          rw [if_neg done] at ended
          exact ended

/-- More fuel makes no difference once the loop has ended. -/
theorem readLoop_mono (whenEmpty : Int) {fuel more : Nat} {clocks : Nat → QuicClock}
    {server final : QuicProxyServer utils}
    (ended : server.readLoop whenEmpty fuel clocks = some final) (least : fuel ≤ more) :
    server.readLoop whenEmpty more clocks = some final := by
  induction least with
  | refl => exact ended
  | step _ ih => exact readLoop_succ whenEmpty ih

/-- On `EPOLLIN`, whatever earlier batches have left in the buffers and headers: with more
rounds than there are full batches the loop ends, always in the same way. Nothing is left
on the socket, and the dispatcher has had one call for each acceptable datagram, in order
and with what that datagram by itself leads to. -/
theorem drains_and_dispatches (whenEmpty : Int) (nonPositive : whenEmpty ≤ 0)
    (clocks : Nat → QuicClock) (answers : DispatcherAnswers) (inEvents : EventMask)
    (readable : inEvents.epollIn = true) (server : QuicProxyServer utils)
    (addressed : ∀ datagram ∈ server.socket, datagram.Addressed utils) :
    ∃ final outReady, (∀ fuel, server.socket.length / kNumPacketsPerReadMmsgCall < fuel →
        server.onEvent whenEmpty fuel clocks answers inEvents = some (final, outReady)) ∧
      final.socket = [] ∧
      ∃ calls : List (ProcessPacket Ip Peer),
        final.calls = server.calls ++
          [.processBufferedChlos kNumSessionsToCreatePerSocketEvent] ++
          calls.map .processPacket ++ (if inEvents.epollOut then [.onCanWrite] else []) ∧
        calls.map ProcessPacket.untimed =
          server.socket.filterMap (Datagram.dispatched utils server.port) := by
  let asked := server.call [.processBufferedChlos kNumSessionsToCreatePerSocketEvent]
  obtain ⟨read, ended, drained, calls, made, dispatched⟩ :=
    readLoop_spec whenEmpty nonPositive (server.socket.length / kNumPacketsPerReadMmsgCall + 1)
      clocks asked (Nat.lt_succ_self _) addressed
  refine ⟨if inEvents.epollOut then read.call [.onCanWrite] else read,
    ⟨inEvents.epollIn && answers.hasChlosBuffered, inEvents.epollOut && answers.hasPendingWrites⟩,
    ?_, ?_, calls, ?_, dispatched⟩
  · intro fuel enough
    have longer : asked.readLoop whenEmpty fuel clocks = some read :=
      readLoop_mono whenEmpty ended enough
    rw [onEvent, if_pos readable, longer]
    rfl
  · split
    · exact drained
    · exact drained
  · split
    · simp only [call, made, asked]
    · simp only [made, asked, call, List.append_nil]

/-- Port and address of a `sockaddr_in` in a `sockaddr_storage`. -/
def portAndAddress (storage : Vector UInt8 128) : Bytes := (Buffer.front storage 8).drop 2

/-- A `sockaddr_in` is sixteen bytes long. -/
theorem portAndAddress_overwrite (storage : Vector UInt8 128) {name : Bytes}
    (size : name.length = 16) :
    portAndAddress (Buffer.overwrite storage name) = (name.take 8).drop 2 := by
  rw [portAndAddress, Buffer.front_overwrite_of_le storage (by omega) (by omega)]

/-- The base libraries where all addresses are IPv4 and the control data is one
`IP_PKTINFO`. -/
def inet : SocketUtils Bytes Bytes where
  kMaxV4PacketSize := 1472
  kCmsgSpaceForReadPacket := 512
  sockaddrStorageSize := 128
  peerAddress := portAndAddress
  selfIp control :=
    if control.length = 28 ∧ control.substr 12 4 = [8, 0, 0, 0] then some (control.drop 24)
    else none
  wallTimestamp _ := 0
  ttl _ := none
  overflow _ := none

/-- A name of sixteen bytes is an IPv4 address. -/
theorem addressed_inet {datagram : Datagram} (size : datagram.name.length = 16) :
    datagram.Addressed inet := by
  constructor
  · rw [size]
    decide
  · intro before after
    have same : inet.peerAddress = portAndAddress := rfl
    rw [same]
    exact (portAndAddress_overwrite before size).trans (portAndAddress_overwrite after size).symm

/-- A datagram from port 443 of 192.0.2.7 to 192.0.2.1. -/
def hello : Datagram where
  name := [2, 0, 1, 187, 192, 0, 2, 7, 0, 0, 0, 0, 0, 0, 0, 0]
  payload := ascii "hello"
  control := [28, 0, 0, 0, 0, 0, 0, 0, 0, 0, 0, 0, 8, 0, 0, 0, 1, 0, 0, 0] ++
    [192, 0, 2, 1, 192, 0, 2, 1]

/-- A full batch waits, with an empty datagram in it. -/
def fullBatch : QuicProxyServer inet where
  port := 6121
  overflowSupported := true
  packetsDropped := 0
  packetReader := .create inet
  socket := { hello with payload := [] } :: List.replicate 15 hello
  calls := []

/-- Sixteen datagrams take a second round. -/
theorem drains_and_dispatches_fullBatch :
    ∃ final outReady, fullBatch.onEvent (-1) 2 (fun _ => ⟨1, id⟩) ⟨false, false⟩ ⟨true, false⟩ =
        some (final, outReady) ∧ final.socket = [] := by
  have addressed : ∀ datagram ∈ fullBatch.socket, datagram.Addressed inet := by
    intro datagram member
    apply addressed_inet
    rcases List.mem_cons.mp member with rfl | later
    · rfl
    · rw [List.eq_of_mem_replicate later]
      rfl
  obtain ⟨final, outReady, ended, drained, -⟩ := drains_and_dispatches (-1) (by decide)
    (fun _ => ⟨1, id⟩) ⟨false, false⟩ ⟨true, false⟩ rfl fullBatch addressed
  exact ⟨final, outReady, ended 2 (by decide), drained⟩

end QuicProxyServer

end QuicProxy
