import QuicProxy.Curl.Delivery
import QuicProxy.Std.Places

/-!
# The end of a response

When a transfer's calls carry a FIN. `finIsLast_calls` takes apart what it means
that nothing is written after one, `endsOnce_calls` that there is exactly one.
-/

namespace QuicProxy

/-- Nothing is written after a call that carries a FIN. -/
def FinIsLast (calls : List StreamCall) : Prop :=
  calls.Pairwise fun earlier later => earlier.carriesFin → later.writes = false

instance : DecidablePred FinIsLast := fun calls =>
  inferInstanceAs (Decidable (calls.Pairwise _))

/-- The stream ends with its last byte, by exactly one FIN. -/
structure EndsOnce (calls : List StreamCall) : Prop where
  once : calls.countP StreamCall.carriesFin = 1
  last : FinIsLast calls

/-! ## Lists of calls -/

/-- The first call carries the FIN only if nothing is written after it. -/
theorem finIsLast_cons (call : StreamCall) (rest : List StreamCall) :
    FinIsLast (call :: rest) ↔
      (call.carriesFin → ∀ later ∈ rest, later.writes = false) ∧ FinIsLast rest := by
  rw [FinIsLast, List.pairwise_cons, FinIsLast]
  constructor
  · rintro ⟨first, tail⟩
    exact ⟨fun fin later member => first later member fin, tail⟩
  · rintro ⟨first, tail⟩
    exact ⟨fun later member fin => first fin later member, tail⟩

/-- Before a call that writes no FIN may stand. -/
theorem finIsLast_append_cons (first rest : List StreamCall) (call : StreamCall)
    (writes : call.writes = true) :
    FinIsLast (first ++ call :: rest) ↔
      (∀ earlier ∈ first, earlier.carriesFin = false) ∧ FinIsLast (call :: rest) := by
  induction first with
  | nil => simp
  | cons head tail ih =>
      rw [List.cons_append, finIsLast_cons, ih, List.forall_mem_cons]
      constructor
      · rintro ⟨headLast, tailOpen, last⟩
        refine ⟨⟨?_, tailOpen⟩, last⟩
        cases fin : head.carriesFin with
        | false => rfl
        | true =>
            have silent := headLast fin call (by simp)
            rw [writes] at silent
            cases silent
      · rintro ⟨⟨headOpen, tailOpen⟩, last⟩
        refine ⟨fun fin => ?_, tailOpen, last⟩
        rw [headOpen] at fin
        cases fin

/-- `EndsOnce` with a call in front that carries no FIN. -/
theorem endsOnce_cons_open (call : StreamCall) (rest : List StreamCall)
    (isOpen : call.carriesFin = false) : EndsOnce (call :: rest) ↔ EndsOnce rest := by
  have count : (call :: rest).countP StreamCall.carriesFin =
      rest.countP StreamCall.carriesFin := by
    simp [isOpen]
  have last : FinIsLast (call :: rest) ↔ FinIsLast rest := by
    simp [finIsLast_cons, isOpen]
  constructor
  · rintro ⟨once, finLast⟩
    exact ⟨count ▸ once, last.mp finLast⟩
  · rintro ⟨once, finLast⟩
    exact ⟨count ▸ once, last.mpr finLast⟩

/-- `EndsOnce` with a call in the middle that writes. -/
theorem endsOnce_append_cons (first rest : List StreamCall) (call : StreamCall)
    (writes : call.writes = true) :
    EndsOnce (first ++ call :: rest) ↔
      (∀ earlier ∈ first, earlier.carriesFin = false) ∧ EndsOnce (call :: rest) := by
  have count (isOpen : ∀ earlier ∈ first, earlier.carriesFin = false) :
      (first ++ call :: rest).countP StreamCall.carriesFin =
        (call :: rest).countP StreamCall.carriesFin := by
    have none : first.countP StreamCall.carriesFin = 0 := by
      simpa [List.countP_eq_zero] using isOpen
    rw [List.countP_append, none, Nat.zero_add]
  constructor
  · rintro ⟨once, last⟩
    obtain ⟨isOpen, last⟩ := (finIsLast_append_cons first rest call writes).mp last
    exact ⟨isOpen, count isOpen ▸ once, last⟩
  · rintro ⟨isOpen, once, last⟩
    exact ⟨(count isOpen).trans once,
      (finIsLast_append_cons first rest call writes).mpr ⟨isOpen, last⟩⟩

/-! ## The calls of a transfer -/

section Calls

variable (platform : Platform)

/-- No section of the list is taken for a whole response, from `length` on. -/
def AllOpen (length : UInt64) (heads : List ResponseHead) : Prop :=
  AtEachPlace (fun before head _ =>
    ¬ head.Closes platform (lengthAfter platform length (before ++ [head]))) heads

/-- Sections send no FIN exactly if none is taken for a whole response. -/
theorem headerCalls_open (length : UInt64) (heads : List ResponseHead) :
    (∀ call ∈ headerCalls platform length heads, call.carriesFin = false) ↔
      AllOpen platform length heads := by
  induction heads generalizing length with
  | nil => simp [headerCalls, AllOpen]
  | cons head rest ih =>
      have places : AllOpen platform length (head :: rest) ↔
          ¬ head.Closes platform (lengthAfter platform length [head]) ∧
            AllOpen platform (lengthAfter platform length [head]) rest := by
        unfold AllOpen
        rw [atEachPlace_cons]
        rfl
      rw [headerCalls, List.forall_mem_cons, ih, places]
      simp [StreamCall.carriesFin, lengthAfter]

/-- Empty pieces write nothing. -/
theorem bodyCalls_silent (length sent : UInt64) (chunks : List Bytes) :
    (∀ call ∈ bodyCalls length sent chunks, call.writes = false) ↔
      ∀ chunk ∈ chunks, chunk = [] := by
  induction chunks generalizing sent with
  | nil => simp [bodyCalls]
  | cons chunk rest ih =>
      rw [bodyCalls, List.forall_mem_cons, List.forall_mem_cons, ih]
      simp [StreamCall.writes]

/-- The FIN of a body comes last exactly if only the whole body reaches the length. -/
theorem finIsLast_bodyCalls (length sent : UInt64) (chunks : List Bytes) :
    FinIsLast (bodyCalls length sent chunks) ↔
      AtEachPlace (fun before chunk after =>
        sent + totalSize (before ++ [chunk]) = length → ∀ later ∈ after, later = []) chunks := by
  induction chunks generalizing sent with
  | nil => simp [bodyCalls, FinIsLast]
  | cons chunk rest ih =>
      rw [bodyCalls, finIsLast_cons, bodyCalls_silent, ih, atEachPlace_cons]
      simp [StreamCall.carriesFin, UInt64.add_assoc]

/-- The body carries exactly one FIN, with its last piece, if and only if that
piece and no earlier one brings the total to the length in force. -/
theorem endsOnce_bodyCalls (length sent : UInt64) (chunks : List Bytes) :
    EndsOnce (bodyCalls length sent chunks) ↔
      ∃ before last, chunks = before ++ [last] ∧ sent + totalSize chunks = length ∧
        AtEachPlace (fun earlier chunk _ => sent + totalSize (earlier ++ [chunk]) ≠ length)
          before := by
  induction chunks generalizing sent with
  | nil =>
      constructor
      · rintro ⟨once, -⟩
        simp [bodyCalls] at once
      · rintro ⟨before, last, split, -⟩
        simp at split
  | cons chunk rest ih =>
      by_cases reached : sent + QuicProxyCurl.realSize chunk = length
      · constructor
        · rintro ⟨once, last⟩
          rw [bodyCalls, finIsLast_cons] at last
          have silent := last.1 (by simp [StreamCall.carriesFin, reached])
          have empty := (bodyCalls_silent _ _ _).mp silent
          have restEmpty : rest = [] := by
            cases rest with
            | nil => rfl
            | cons second others =>
                have secondEmpty : second = [] := empty second (by simp)
                have none : QuicProxyCurl.realSize [] = 0 := rfl
                simp [bodyCalls, List.countP_cons, StreamCall.carriesFin, reached, secondEmpty,
                  none] at once
          exact ⟨[], chunk, by simp [restEmpty], by simp [restEmpty, reached], by simp⟩
        · rintro ⟨before, last, split, total, earlier⟩
          cases before with
          | nil =>
              obtain ⟨rfl, rfl⟩ := List.cons.inj split
              constructor <;> simp [bodyCalls, StreamCall.carriesFin, reached, FinIsLast]
          | cons first others =>
              obtain ⟨rfl, -⟩ := List.cons.inj split
              have first := ((atEachPlace_cons _ _ _).mp earlier).1
              exact absurd (by simpa using reached) first
      · rw [bodyCalls, endsOnce_cons_open _ _ (by simp [StreamCall.carriesFin, reached]), ih]
        constructor
        · rintro ⟨before, last, rfl, total, earlier⟩
          refine ⟨chunk :: before, last, rfl, by simpa [UInt64.add_assoc] using total, ?_⟩
          rw [atEachPlace_cons]
          refine ⟨by simpa using reached, ?_⟩
          simpa [UInt64.add_assoc] using earlier
        · rintro ⟨before, last, split, total, earlier⟩
          cases before with
          | nil =>
              obtain ⟨rfl, rfl⟩ := List.cons.inj split
              exact absurd (by simpa using total) reached
          | cons first others =>
              obtain ⟨rfl, rfl⟩ := List.cons.inj split
              have later := ((atEachPlace_cons _ _ _).mp earlier).2
              exact ⟨others, last, rfl, by simpa [UInt64.add_assoc] using total,
                by simpa [UInt64.add_assoc] using later⟩

/-- A header section that carries the FIN must have no body after it, not even
an empty piece: that would carry a second one. -/
theorem endsOnce_closed (block : SpdyHeaderBlock) (chunks : List Bytes) :
    EndsOnce (.writeHeaders block true :: bodyCalls 0 0 chunks) ↔ chunks = [] := by
  constructor
  · rintro ⟨once, last⟩
    rw [finIsLast_cons, bodyCalls_silent] at last
    cases chunks with
    | nil => rfl
    | cons chunk rest =>
        have empty : chunk = [] := last.1 rfl chunk (by simp)
        have none : QuicProxyCurl.realSize [] = 0 := rfl
        simp [bodyCalls, List.countP_cons, StreamCall.carriesFin, empty, none] at once
  · rintro rfl
    constructor <;> simp [bodyCalls, StreamCall.carriesFin, FinIsLast]

/-- Without a length of its own a response is given that of an earlier section. -/
theorem lengthInForce_eq (responses : Responses) :
    responses.lengthInForce platform =
      (responses.final.declaredLength platform).getD
        (lengthAfter platform 0 responses.earlier) := by
  simp [Responses.lengthInForce, Responses.heads, lengthAfter]

/-- The calls of the response itself, behind those of the sections before it. -/
theorem calls_split (responses : Responses) :
    responses.calls platform = headerCalls platform 0 responses.earlier ++
      .writeHeaders (responses.final.fields platform)
          (decide (responses.final.Closes platform (responses.lengthInForce platform))) ::
        bodyCalls (responses.lengthInForce platform) 0 responses.chunks := by
  rw [Responses.calls, Responses.heads, headerCalls_append, lengthInForce_eq]
  simp [headerCalls]

/-- Nothing is written after a FIN if and only if no earlier section is taken for
a whole response, and neither the last one nor a part of the body is while body
bytes are still to come. -/
theorem finIsLast_calls (responses : Responses) :
    FinIsLast (responses.calls platform) ↔
      AllOpen platform 0 responses.earlier ∧
      (responses.final.Closes platform (responses.lengthInForce platform) →
        ∀ chunk ∈ responses.chunks, chunk = []) ∧
      AtEachPlace (fun before chunk after =>
        totalSize (before ++ [chunk]) = responses.lengthInForce platform →
          ∀ later ∈ after, later = []) responses.chunks := by
  rw [calls_split, finIsLast_append_cons _ _ _ rfl, headerCalls_open, finIsLast_cons,
    bodyCalls_silent, finIsLast_bodyCalls]
  simp [StreamCall.carriesFin]

/-- The calls end once exactly if the sections are open and the response's own end comes last. -/
theorem endsOnce_calls (responses : Responses) :
    EndsOnce (responses.calls platform) ↔
      AllOpen platform 0 responses.earlier ∧
      (if responses.final.Closes platform (responses.lengthInForce platform) then
        responses.chunks = []
      else
        ∃ before last, responses.chunks = before ++ [last] ∧
          totalSize responses.chunks = responses.lengthInForce platform ∧
          AtEachPlace (fun earlier chunk _ =>
            totalSize (earlier ++ [chunk]) ≠ responses.lengthInForce platform) before) := by
  rw [calls_split, endsOnce_append_cons _ _ _ rfl, headerCalls_open]
  refine and_congr_right fun _ => ?_
  by_cases closes : responses.final.Closes platform (responses.lengthInForce platform)
  · have zero : responses.lengthInForce platform = 0 := closes.1
    rw [decide_eq_true closes, if_pos closes, zero, endsOnce_closed]
  · rw [decide_eq_false closes, if_neg closes, endsOnce_cons_open _ _ rfl, endsOnce_bodyCalls]
    simp

end Calls

/-! ## No early end -/

section EarlyEnd

variable (platform : Platform)

/-- A transfer goes through, nothing is written after a FIN, and the length its
body is compared with is the one the response of that body declares. -/
def NoEarlyEnd (proxyRef : ProxyRef) (streamRef : StreamRef) (requestUrl : Bytes)
    (responses : Responses) : Prop :=
  ∃ exchange, (Exchange.start proxyRef streamRef requestUrl).deliver platform
      responses.callbacks = some exchange ∧
    FinIsLast exchange.stream.calls ∧
    (responses.chunks ≠ [] →
      exchange.proxy.contentLength = (responses.final.declaredLength platform).getD 0)

/-- The transfers that do not end early. -/
structure EndsInOrder (responses : Responses) : Prop where
  /-- libcurl passes every blank line on as CR LF. -/
  blanks : ∀ head ∈ responses.heads, head.blank = crlf
  /-- No interim response or redirect has length 0 in force without being a 200,
  a 100 or exactly `chunked`. -/
  earlierOpen : AllOpen platform 0 responses.earlier
  /-- Nor has the final response, unless its body is empty. -/
  finalOpen : responses.final.Closes platform (responses.lengthInForce platform) →
    ∀ chunk ∈ responses.chunks, chunk = []
  /-- No part of the body but the whole has the length in force. -/
  bodyOpen : AtEachPlace (fun before chunk after =>
    totalSize (before ++ [chunk]) = responses.lengthInForce platform →
      ∀ later ∈ after, later = []) responses.chunks
  /-- A body comes with a length of its own, or no length was declared before. -/
  ownLength : responses.chunks ≠ [] →
    (responses.final.declaredLength platform).isSome ∨
      lengthAfter platform 0 responses.earlier = 0

/-- For every sequence of sections, pieces and trailers: nothing is written behind the FIN,
and no length but the response's own is used for its body, exactly if the sections end in
order. -/
theorem no_early_end_iff (proxyRef : ProxyRef) (streamRef : StreamRef) (requestUrl : Bytes)
    (responses : Responses) :
    NoEarlyEnd platform proxyRef streamRef requestUrl responses ↔
      EndsInOrder platform responses := by
  have inForce : responses.lengthInForce platform =
      (responses.final.declaredLength platform).getD 0 ↔
      (responses.final.declaredLength platform).isSome ∨
        lengthAfter platform 0 responses.earlier = 0 := by
    rw [lengthInForce_eq]
    cases responses.final.declaredLength platform <;> simp
  unfold NoEarlyEnd
  simp only [Exchange.start_deliver]
  constructor
  · rintro ⟨exchange, ⟨blanks, rfl⟩, last, length⟩
    rw [Exchange.start_withResponses_calls, finIsLast_calls] at last
    obtain ⟨earlier, final, body⟩ := last
    exact ⟨blanks, earlier, final, body, fun some => inForce.mp (length some)⟩
  · rintro ⟨blanks, earlier, final, body, length⟩
    refine ⟨_, ⟨blanks, rfl⟩, ?_, fun some => inForce.mpr (length some)⟩
    rw [Exchange.start_withResponses_calls, finIsLast_calls]
    exact ⟨earlier, final, body⟩

/-- A response that the closing of the connection ends, with a status that is
neither 200 nor 100. -/
def notFound : Responses where
  earlier := []
  final := .ofLines [⟨ascii "HTTP/1.1 404 Not Found" ++ crlf, by decide, by decide, by decide⟩]
  chunks := [ascii "no such page"]
  trailer := []

/-- A 404 without a length ends with its headers, before its body. -/
theorem notFound_ends_early :
    ¬ NoEarlyEnd Platform.chromium 0 0 (ascii "http://localhost/") notFound := by
  rintro ⟨exchange, delivered, last, -⟩
  obtain ⟨-, rfl⟩ := (Exchange.start_deliver _ _ _ _ _ _).mp delivered
  rw [Exchange.start_withResponses_calls] at last
  revert last
  decide +kernel

end EarlyEnd

end QuicProxy
