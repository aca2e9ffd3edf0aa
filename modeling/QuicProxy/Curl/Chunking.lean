import QuicProxy.Curl.Delivery
import QuicProxy.Std.Places

/-!
# A body of declared length, cut into pieces

libcurl may cut a body anywhere. `Forwarded` is what the stream must receive of a
response that declares its length: each piece once, and a FIN with the one that brings
the total to that length. It says so in terms of the whole body, and so two ways of
cutting it come to the same (`Forwarded.same_stream`). `forwardsBody_iff` is the result
for every response and every way of cutting.
-/

namespace QuicProxy

/-- The body bytes of a call. -/
def StreamCall.body : StreamCall → Bytes
  | .writeOrBufferBody body _ => body
  | .writeHeaders _ _ | .reset => []

/-- The body bytes a stream receives, in order. -/
def bodyBytes (calls : List StreamCall) : Bytes := calls.flatMap StreamCall.body

/-- How many body bytes the stream has when it is first ended. -/
def endPosition : List StreamCall → Option Nat
  | [] => none
  | call :: rest =>
      if call.carriesFin then some call.body.length
      else (endPosition rest).map fun later => call.body.length + later

/-- The stream receives the header block and then the pieces of a body, of which `length`
bytes are declared. -/
structure Forwarded (block : SpdyHeaderBlock) (length : Nat) (chunks : List Bytes)
    (calls : List StreamCall) : Prop where
  headers : calls[0]? = some (.writeHeaders block false)
  writes : AtEachPlace (fun before chunk _ =>
    calls[before.length + 1]? = some
      (.writeOrBufferBody chunk (decide ((before ++ [chunk]).flatten.length = length)))) chunks
  size : calls.length = chunks.length + 1
  bytes : bodyBytes calls = chunks.flatten
  fins : calls.countP StreamCall.carriesFin = if chunks.flatten.length = length then 1 else 0
  ends : endPosition calls = if chunks.flatten.length = length then some length else none

/-- What is sent, and where it ends, does not depend on how the body was cut. -/
theorem Forwarded.same_stream {block : SpdyHeaderBlock} {length : Nat}
    {chunks others : List Bytes} {calls otherCalls : List StreamCall}
    (forwarded : Forwarded block length chunks calls)
    (otherwise : Forwarded block length others otherCalls)
    (same : chunks.flatten = others.flatten) :
    bodyBytes calls = bodyBytes otherCalls ∧ endPosition calls = endPosition otherCalls := by
  rw [forwarded.bytes, otherwise.bytes, forwarded.ends, otherwise.ends, same]
  exact ⟨rfl, rfl⟩

/-- A way to cut a body of at most `length` bytes. -/
structure Cut (length : Nat) (chunks : List Bytes) : Prop where
  nonempty : ∀ chunk ∈ chunks, chunk ≠ []
  within : chunks.flatten.length ≤ length

/-- Delivering the response: its header section is taken and each piece of its body
forwarded, every call returning the size of its piece; and cutting the same body in
another way comes to the same. -/
def ForwardsBody (platform : Platform) (start : Exchange) (head : ResponseHead)
    (length : UInt64) (chunks : List Bytes) : Prop :=
  ∃ opened closed, start.deliver platform head.callbacks = some opened ∧
    opened.deliver platform (chunks.map .body) = some closed ∧
    Forwarded (head.fields platform) length.toNat chunks closed.stream.calls ∧
    AtEachPlace (fun before chunk _ =>
      ∃ here, opened.deliver platform (before.map .body) = some here ∧
        (here.proxy.writeQuicCallback chunk).returned.toNat = chunk.length) chunks ∧
    ∀ others, Cut length.toNat others → others.flatten = chunks.flatten →
      ∃ otherwise, opened.deliver platform (others.map .body) = some otherwise ∧
        bodyBytes otherwise.stream.calls = bodyBytes closed.stream.calls ∧
        endPosition otherwise.stream.calls = endPosition closed.stream.calls

/-! ## The pieces -/

variable {length : UInt64}

/-- Pieces that are not empty and have no bytes together are none. -/
theorem eq_nil_of_no_bytes {chunks : List Bytes} (nonempty : ∀ chunk ∈ chunks, chunk ≠ [])
    (none : chunks.flatten.length = 0) : chunks = [] := by
  cases chunks with
  | nil => rfl
  | cons chunk rest =>
      rw [List.flatten_cons, List.length_append] at none
      have empty : chunk = [] := List.eq_nil_of_length_eq_zero (by omega)
      exact absurd empty (nonempty chunk List.mem_cons_self)

/-- `had_send_length_` counts the bytes of the body, modulo 2^64. -/
theorem sent_add (sent : Nat) (chunk : Bytes) :
    UInt64.ofNat sent + QuicProxyCurl.realSize chunk = .ofNat (sent + chunk.length) := by
  rw [QuicProxyCurl.realSize, UInt64.ofNat_add]

/-- The comparison of `WriteQuicCallback` on a total that does not pass the length. -/
theorem reached_iff {sent : Nat} (within : sent ≤ length.toNat) :
    (UInt64.ofNat sent == length) = decide (sent = length.toNat) := by
  have small : (UInt64.ofNat sent).toNat = sent :=
    UInt64.toNat_ofNat_of_lt' (Nat.lt_of_le_of_lt within length.toNat_lt)
  rw [Bool.eq_iff_iff, beq_iff_eq, decide_eq_true_iff, ← UInt64.toNat_inj, small]

/-- One call for each piece of the body. -/
theorem length_bodyCalls (sent : UInt64) (chunks : List Bytes) :
    (bodyCalls length sent chunks).length = chunks.length := by
  induction chunks generalizing sent with
  | nil => rfl
  | cons chunk rest ih => simp [bodyCalls, ih]

/-- The calls carry the body and nothing else. -/
theorem bodyBytes_bodyCalls (sent : UInt64) (chunks : List Bytes) :
    bodyBytes (bodyCalls length sent chunks) = chunks.flatten := by
  induction chunks generalizing sent with
  | nil => rfl
  | cons chunk rest ih =>
      rw [List.flatten_cons, ← ih (sent + QuicProxyCurl.realSize chunk)]
      rfl

/-- Each piece is written once, at its place, with the FIN where the total is reached. -/
theorem bodyCalls_writes {sent : Nat} {chunks : List Bytes}
    (within : sent + chunks.flatten.length ≤ length.toNat) :
    AtEachPlace (fun before chunk _ =>
      (bodyCalls length (.ofNat sent) chunks)[before.length]? = some
        (.writeOrBufferBody chunk
          (decide (sent + (before ++ [chunk]).flatten.length = length.toNat)))) chunks := by
  induction chunks generalizing sent with
  | nil => exact atEachPlace_nil _
  | cons chunk rest ih =>
      rw [List.flatten_cons, List.length_append] at within
      rw [atEachPlace_cons]
      constructor
      · simp only [bodyCalls, sent_add]
        rw [reached_iff (by omega)]
        simp
      · have fewer : sent + chunk.length + rest.flatten.length ≤ length.toNat := by omega
        intro before piece after split
        have place := ih fewer before piece after split
        simp only [bodyCalls, sent_add, List.length_cons, List.getElem?_cons_succ, place]
        simp [Nat.add_assoc]

/-- Until the length is reached there is no FIN; the piece that reaches it is the last. -/
theorem bodyCalls_ends {sent : Nat} {chunks : List Bytes} (before : sent < length.toNat)
    (nonempty : ∀ chunk ∈ chunks, chunk ≠ [])
    (within : sent + chunks.flatten.length ≤ length.toNat) :
    (bodyCalls length (.ofNat sent) chunks).countP StreamCall.carriesFin =
        (if sent + chunks.flatten.length = length.toNat then 1 else 0) ∧
      endPosition (bodyCalls length (.ofNat sent) chunks) =
        if sent + chunks.flatten.length = length.toNat then some chunks.flatten.length
        else none := by
  induction chunks generalizing sent with
  | nil =>
      have notYet : ¬ sent + ([] : List Bytes).flatten.length = length.toNat := by
        rw [List.flatten_nil, List.length_nil]
        omega
      rw [if_neg notYet, if_neg notYet]
      exact ⟨rfl, rfl⟩
  | cons chunk rest ih =>
      rw [List.flatten_cons, List.length_append] at within
      obtain ⟨-, nonempty⟩ := List.forall_mem_cons.mp nonempty
      have fin : (UInt64.ofNat (sent + chunk.length) == length) =
          decide (sent + chunk.length = length.toNat) := reached_iff (by omega)
      by_cases reached : sent + chunk.length = length.toNat
      · have last : rest = [] := eq_nil_of_no_bytes nonempty (by omega)
        simp [last, bodyCalls, sent_add, reached, endPosition, StreamCall.carriesFin,
          StreamCall.body]
      · have next : sent + chunk.length < length.toNat := by omega
        have fewer : sent + chunk.length + rest.flatten.length ≤ length.toNat := by omega
        obtain ⟨fins, ends⟩ := ih next nonempty fewer
        simp only [bodyCalls, sent_add, endPosition, List.countP_cons, StreamCall.carriesFin,
          fin, reached, decide_false, fins, ends, StreamCall.body, List.flatten_cons,
          List.length_append, Nat.add_assoc, Bool.false_eq_true, if_false, Nat.add_zero,
          true_and]
        split
        · rfl
        · rfl

/-! ## The response -/

/-- The stream after the header section and the pieces of the body. -/
theorem forwarded_calls {platform : Platform} {head : ResponseHead} {chunks : List Bytes}
    (declared : head.declaredLength platform = some length) (positive : 0 < length)
    (cut : Cut length.toNat chunks) :
    Forwarded (head.fields platform) length.toNat chunks
      (headerCalls platform 0 [head] ++ bodyCalls length 0 chunks) := by
  have some : 0 < length.toNat := by
    rwa [UInt64.lt_iff_toNat_lt, UInt64.toNat_zero] at positive
  have isOpen : ¬ head.Closes platform length := by
    intro closes
    rw [closes.1] at some
    exact absurd some (by decide)
  have within : 0 + chunks.flatten.length ≤ length.toNat := by
    rw [Nat.zero_add]
    exact cut.within
  have writes := bodyCalls_writes within
  obtain ⟨fins, ends⟩ := bodyCalls_ends some cut.nonempty within
  simp only [Nat.zero_add] at writes fins ends
  have opening : headerCalls platform 0 [head] = [.writeHeaders (head.fields platform) false] := by
    simp [headerCalls, declared, isOpen]
  rw [opening, List.singleton_append]
  constructor
  · rfl
  · intro before chunk after split
    exact writes before chunk after split
  · rw [List.length_cons, length_bodyCalls]
  · exact bodyBytes_bodyCalls 0 chunks
  · exact fins
  · rw [endPosition, StreamCall.carriesFin, if_neg Bool.false_ne_true]
    refine (congrArg _ ends).trans ?_
    split
    · next total => simp [StreamCall.body, total]
    · rfl

variable (platform : Platform) (proxyRef : ProxyRef) (streamRef : StreamRef) (requestUrl : Bytes)

/-- A body of the declared length goes through in any pieces, behind a section that ends in CRLF. -/
theorem forwardsBody_of_crlf {head : ResponseHead} {chunks : List Bytes}
    (declared : head.declaredLength platform = some length) (positive : 0 < length)
    (cut : Cut length.toNat chunks) (blank : head.blank = crlf) :
    ForwardsBody platform (.start proxyRef streamRef requestUrl) head length chunks := by
  let start : Exchange := .start proxyRef streamRef requestUrl
  have attached : start.proxy.quicStream ≠ none :=
    Exchange.start_attached proxyRef streamRef requestUrl
  let opened := start.withHeads platform [head]
  have inForce : opened.proxy.contentLength = length := by
    simp [opened, Exchange.withHeads, lengthAfter, declared]
  have delivered : ∀ pieces : List Bytes,
      opened.deliver platform (pieces.map .body) = some (opened.withChunks pieces) :=
    fun pieces => Exchange.deliver_chunks platform opened pieces attached
  have forwarded : ∀ pieces, Cut length.toNat pieces → Forwarded (head.fields platform)
      length.toNat pieces (opened.withChunks pieces).stream.calls := by
    intro pieces cut
    have calls : (opened.withChunks pieces).stream.calls =
        headerCalls platform 0 [head] ++ bodyCalls length 0 pieces := by
      rw [← inForce]
      simp [opened, start, Exchange.withChunks, Exchange.withHeads, Exchange.start,
        QuicProxyCurl.create, QuicProxyStream.create, QuicProxyStream.setProxyCurl,
        QuicProxyStream.call]
    rw [calls]
    exact forwarded_calls declared positive cut
  refine ⟨opened, _, Exchange.deliver_head platform start head attached rfl blank,
    delivered chunks, forwarded chunks cut, ?_, ?_⟩
  · intro before chunk after split
    refine ⟨_, delivered before, ?_⟩
    have small : chunk.length < UInt64.size := by
      have within := cut.within
      have bound : length.toNat < UInt64.size := length.toNat_lt
      rw [split, List.flatten_append, List.flatten_cons, List.length_append,
        List.length_append] at within
      omega
    have still : (opened.withChunks before).proxy.quicStream ≠ none := attached
    rw [QuicProxyCurl.writeQuicCallback, if_neg still]
    exact UInt64.toNat_ofNat_of_lt' small
  · intro others otherCut same
    refine ⟨_, delivered others, ?_⟩
    exact (forwarded others otherCut).same_stream (forwarded chunks cut) same

/-- A response that declares a positive length has its body forwarded, however it is cut,
exactly where its header section ends in CR LF. -/
theorem forwardsBody_iff (head : ResponseHead) (chunks : List Bytes)
    (declared : head.declaredLength platform = some length) (positive : 0 < length)
    (cut : Cut length.toNat chunks) :
    ForwardsBody platform (.start proxyRef streamRef requestUrl) head length chunks ↔
      head.blank = crlf := by
  constructor
  · rintro ⟨opened, _, delivered, -⟩
    rcases head.blankLine with blank | bare
    · exact blank
    · have attached := Exchange.start_attached proxyRef streamRef requestUrl
      rw [Exchange.deliver_bareBlank platform _ head attached bare] at delivered
      cases delivered
  · exact forwardsBody_of_crlf platform proxyRef streamRef requestUrl declared positive cut

/-- The lines of a response with six bytes. -/
def sixBytes : List HeaderLine :=
  [⟨ascii "HTTP/1.0 200 OK" ++ crlf, by decide, by decide, by decide⟩,
   ⟨ascii "Content-Length: 6" ++ crlf, by decide, by decide, by decide⟩]

/-- Its body in two pieces. -/
def halves : List Bytes := [ascii "wel", ascii "ome"]

/-- Six bytes in two pieces. -/
theorem forwardsBody_iff_halves :
    ForwardsBody Platform.chromium (.start 0 0 (ascii "http://localhost/")) (.ofLines sixBytes) 6
      halves :=
  (forwardsBody_iff Platform.chromium 0 0 (ascii "http://localhost/") (.ofLines sixBytes) halves
    (by decide +kernel) (by decide) ⟨by decide +kernel, by decide +kernel⟩).mpr rfl

/-- With a bare LF for the blank line nothing of it is forwarded. -/
theorem bareBlank_not_forwarded :
    ¬ ForwardsBody Platform.chromium (.start 0 0 (ascii "http://localhost/"))
      ⟨sixBytes, [lf], .inr rfl⟩ 6 halves := by
  rintro ⟨opened, -, delivered, -⟩
  rw [Exchange.deliver_bareBlank _ _ _ (Exchange.start_attached _ _ _) rfl] at delivered
  cases delivered

end QuicProxy
