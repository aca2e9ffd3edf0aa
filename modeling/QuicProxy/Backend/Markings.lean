import QuicProxy.Backend.Forwarding
import QuicProxy.Curl.PseudoHeaders

/-!
# What a stream is sent, whatever the backend answers

`Transfer.sent_well` is about any lines and pieces a backend may send, also about those of no
response at all. The FIN flags of the calls on a stream follow from these calls themselves
(`Marked`): those written before say which length is in force and how much of it has been
sent. And every header block names its fields in lower case.
-/

namespace QuicProxy

/-- What the calls on a stream so far amount to: the latest length declared, and the bytes of
body written, both as a `size_t`. -/
@[ext] structure Account where
  length : UInt64
  sent : UInt64

namespace Account

/-- Before the first call. -/
def fresh : Account := ⟨0, 0⟩

variable (platform : Platform)

/-- What a call announces, and what it sends. -/
def after (account : Account) : StreamCall → Account
  | .writeHeaders block _ =>
      { account with
        length := ((block.find (ascii "content-length")).map platform.stringToSizeT).getD
          account.length }
  | .writeOrBufferBody body _ =>
      { account with sent := account.sent + QuicProxyCurl.realSize body }
  | .reset => account

end Account

variable (platform : Platform)

/-- The FIN flag of a call is what the account says. -/
def StreamCall.MarkedBy (account : Account) (call : StreamCall) : Prop :=
  let account := account.after platform call
  match call with
  | .writeHeaders block fin => fin = QuicProxyCurl.finOnHeaders block account.length
  | .writeOrBufferBody _ fin => fin = (account.sent == account.length)
  | .reset => False

/-- Each call is marked by the account of those before it. -/
def Marked : Account → List StreamCall → Prop
  | _, [] => True
  | account, call :: rest =>
      call.MarkedBy platform account ∧ Marked (account.after platform call) rest

/-- A sequence of calls is marked piece by piece. -/
theorem marked_append (account : Account) (calls more : List StreamCall) :
    Marked platform account (calls ++ more) ↔
      Marked platform account calls ∧
        Marked platform (calls.foldl (Account.after platform) account) more := by
  induction calls generalizing account with
  | nil => exact (iff_of_eq (true_and _)).symm
  | cons call rest ih =>
      rw [List.cons_append, Marked, Marked, ih, List.foldl_cons, and_assoc]

/-- Marked calls have no reset. -/
theorem Marked.reset_not_mem {platform : Platform} {account : Account} {calls : List StreamCall}
    (marked : Marked platform account calls) : StreamCall.reset ∉ calls := by
  induction calls generalizing account with
  | nil => exact List.not_mem_nil
  | cons call rest ih =>
      obtain ⟨first, later⟩ := marked
      rw [List.mem_cons, not_or]
      refine ⟨?_, ih later⟩
      rintro rfl
      exact first

/-- No byte is an upper-case letter. -/
def LowerCase (name : Bytes) : Prop := ∀ byte ∈ name, ¬ (65 ≤ byte ∧ byte ≤ 90)

instance (name : Bytes) : Decidable (LowerCase name) :=
  inferInstanceAs (Decidable (∀ byte ∈ name, _))

/-- Every name is in lower case. -/
def SpdyHeaderBlock.LowerNames (block : SpdyHeaderBlock) : Prop :=
  ∀ name ∈ block.names, LowerCase name

variable {platform}

/-- A field that is added or joined keeps the names in lower case. -/
theorem SpdyHeaderBlock.LowerNames.upsert {block : SpdyHeaderBlock} (lower : block.LowerNames)
    {name : Bytes} (lowerName : LowerCase name) (change : Bytes → Bytes) (fresh : Bytes) :
    (block.upsert name change fresh).LowerNames := by
  intro other member
  rcases (block.mem_names_upsert name other change fresh).mp member with there | rfl
  · exact lower other there
  · exact lowerName

/-- What a line adds to a block it adds under a lower-case name. -/
theorem lowerNames_store (lowers : ∀ text, LowerCase (platform.toLower text))
    {block : SpdyHeaderBlock} (lower : block.LowerNames) (reading : HeaderReading) :
    (QuicProxyCurl.store platform block reading).LowerNames := by
  cases reading with
  | status code => exact lower.upsert (by decide +kernel) _ _
  | badStatus => exact lower
  | field name value => exact lower.upsert (lowers name) _ _
  | noField => exact lower

namespace Exchange

/-- What holds of a stream and its proxy all the time. -/
structure SentWell (platform : Platform) (exchange : Exchange) : Prop where
  account : exchange.stream.calls.foldl (Account.after platform) .fresh =
    ⟨exchange.proxy.contentLength, exchange.proxy.hadSendLength⟩
  marked : Marked platform .fresh exchange.stream.calls
  building : exchange.proxy.spdyHeaders.LowerNames
  written : ∀ block ∈ exchange.stream.calls.filterMap StreamCall.block?, block.LowerNames

variable {exchange next : Exchange}

/-- A callback that calls the stream once. -/
theorem SentWell.called (well : exchange.SentWell platform) {proxy : QuicProxyCurl}
    {call : StreamCall} {returned : UInt64}
    (account : Account.after platform
      ⟨exchange.proxy.contentLength, exchange.proxy.hadSendLength⟩ call =
        ⟨proxy.contentLength, proxy.hadSendLength⟩)
    (marked : call.MarkedBy platform
      ⟨exchange.proxy.contentLength, exchange.proxy.hadSendLength⟩)
    (building : proxy.spdyHeaders.LowerNames)
    (written : ∀ block, call.block? = some block → block.LowerNames) :
    (exchange.accept ⟨returned, proxy, [call]⟩).SentWell platform where
  account := by
    rw [accept, QuicProxyStream.call, List.foldl_append, well.account]
    exact account
  marked := by
    rw [accept, QuicProxyStream.call, marked_append, well.account]
    exact ⟨well.marked, marked, trivial⟩
  building := building
  written := by
    intro block member
    rw [accept, QuicProxyStream.call, List.filterMap_append, List.mem_append] at member
    rcases member with earlier | isNew
    · exact well.written block earlier
    · obtain ⟨other, isCall, isBlock⟩ := List.mem_filterMap.mp isNew
      rw [List.mem_singleton] at isCall
      subst isCall
      exact written block isBlock

/-- A callback that does not call it. -/
theorem SentWell.silent (well : exchange.SentWell platform) {proxy : QuicProxyCurl}
    {returned : UInt64} (length : proxy.contentLength = exchange.proxy.contentLength)
    (sent : proxy.hadSendLength = exchange.proxy.hadSendLength)
    (building : proxy.spdyHeaders.LowerNames) :
    (exchange.accept ⟨returned, proxy, []⟩).SentWell platform where
  account := by
    rw [accept, QuicProxyStream.call, List.append_nil, well.account]
    exact Account.ext length.symm sent.symm
  marked := by
    rw [accept, QuicProxyStream.call, List.append_nil]
    exact well.marked
  building := building
  written := by
    rw [accept, QuicProxyStream.call, List.append_nil]
    exact well.written

/-- The length in force after a header section. -/
theorem endOfHeaders_length (proxy : QuicProxyCurl) :
    (proxy.endOfHeaders platform).1.contentLength =
      ((proxy.spdyHeaders.find (ascii "content-length")).map platform.stringToSizeT).getD
        proxy.contentLength := by
  unfold QuicProxyCurl.endOfHeaders
  cases proxy.spdyHeaders.find (ascii "content-length") with
  | none => rfl
  | some value => rfl

/-- The end of the headers announces the length the proxy then has. -/
theorem endOfHeaders_account (proxy : QuicProxyCurl) :
    Account.after platform ⟨proxy.contentLength, proxy.hadSendLength⟩
        (proxy.endOfHeaders platform).2 =
      ⟨(proxy.endOfHeaders platform).1.contentLength,
        (proxy.endOfHeaders platform).1.hadSendLength⟩ :=
  Account.ext (endOfHeaders_length proxy).symm rfl

/-- The headers of a bodiless response carry the end mark, and no others do. -/
theorem endOfHeaders_marked (proxy : QuicProxyCurl) :
    (proxy.endOfHeaders platform).2.MarkedBy platform
      ⟨proxy.contentLength, proxy.hadSendLength⟩ := by
  unfold StreamCall.MarkedBy
  rw [endOfHeaders_account]
  rfl

/-- A header line keeps what was sent marked. -/
theorem SentWell.header (lowers : ∀ text, LowerCase (platform.toLower text))
    (well : exchange.SentWell platform) {line : Bytes}
    (called : exchange.callback platform (.header line) = some next) :
    next.SentWell platform := by
  obtain ⟨result, answered, rfl⟩ := Option.map_eq_some_iff.mp called
  unfold QuicProxyCurl.httpHeaderCallback at answered
  split at answered
  · obtain rfl := Option.some.inj answered
    exact well.silent rfl rfl well.building
  · split at answered
    · obtain rfl := Option.some.inj answered
      refine well.called (endOfHeaders_account exchange.proxy)
        (endOfHeaders_marked exchange.proxy) ?_ ?_
      · rintro name ⟨⟩
      · rintro block ⟨⟩
        exact well.building
    · split at answered
      · cases answered
      · obtain rfl := Option.some.inj answered
        exact well.silent rfl rfl (lowerNames_store lowers well.building _)

/-- A piece of the body carries the end mark exactly if it is the last. -/
theorem SentWell.body (well : exchange.SentWell platform) (chunk : Bytes) :
    (exchange.accept (exchange.proxy.writeQuicCallback chunk)).SentWell platform := by
  unfold QuicProxyCurl.writeQuicCallback
  split
  · exact well.silent rfl rfl well.building
  · refine well.called rfl rfl well.building ?_
    rintro block ⟨⟩

/-- The transport calls nothing on the stream. -/
theorem SentWell.sameCalls (well : exchange.SentWell platform) {stream : QuicProxyStream}
    (same : stream.calls = exchange.stream.calls) :
    SentWell platform { exchange with stream := stream } where
  account := by
    rw [same]
    exact well.account
  marked := by
    rw [same]
    exact well.marked
  building := well.building
  written := by
    rw [same]
    exact well.written

/-- Nothing that happens to a transfer changes it. -/
theorem SentWell.step (lowers : ∀ text, LowerCase (platform.toLower text))
    (well : exchange.SentWell platform) {event : ExchangeEvent}
    (stepped : exchange.step platform event = some next) : next.SentWell platform := by
  cases event with
  | callback received =>
      cases received with
      | header line => exact well.header lowers stepped
      | body chunk =>
          obtain rfl := Option.some.inj stepped
          exact well.body chunk
  | done result =>
      obtain rfl := Option.some.inj stepped
      unfold done
      split
      · exact ⟨well.account, well.marked, well.building, well.written⟩
      · exact well
  | acked bufferedDataBytes =>
      obtain rfl := Option.some.inj stepped
      exact well.sameCalls (exchange.stream.calls_onStreamFrameAcked bufferedDataBytes)
  | finConsumed =>
      obtain rfl := Option.some.inj stepped
      exact well.sameCalls exchange.stream.calls_finConsumed

/-- A whole run keeps what was sent marked. -/
theorem SentWell.run (lowers : ∀ text, LowerCase (platform.toLower text))
    (well : exchange.SentWell platform) {events : List ExchangeEvent}
    (ran : exchange.run platform events = some next) : next.SentWell platform := by
  induction events generalizing exchange with
  | nil =>
      obtain rfl := Option.some.inj ran
      exact well
  | cons event rest ih =>
      rw [run_cons] at ran
      obtain ⟨middle, stepped, ran⟩ := Option.bind_eq_some_iff.mp ran
      exact ih (well.step lowers stepped) ran

end Exchange

/-- In every run, whatever libcurl delivers: each call on a stream is marked by the ones before
it, the stream is never reset, and the names in its header blocks are in lower case. -/
theorem Transfer.sent_well {platform : Platform} {backendUrl : Bytes}
    (transfer : Transfer platform backendUrl)
    (lowers : ∀ text, LowerCase (platform.toLower text)) :
    ∃ stream, transfer.last.streams transfer.quicStream = some stream ∧
      Marked platform .fresh stream.calls ∧ StreamCall.reset ∉ stream.calls ∧
      ∀ block ∈ stream.calls.filterMap StreamCall.block?, block.LowerNames := by
  obtain ⟨stream, exchange, -, ⟨-, nothing⟩, -, ran, last⟩ := transfer.followed []
  have attachedNothing : (stream.setProxyCurl (some transfer.ref)).calls = [] := nothing
  have start : Exchange.SentWell platform ⟨.create [] transfer.quicStream,
      stream.setProxyCurl (some transfer.ref)⟩ := by
    constructor
    · rw [attachedNothing]
      rfl
    · rw [attachedNothing]
      trivial
    · rintro name ⟨⟩
    · rw [attachedNothing]
      rintro block ⟨⟩
  have well := start.run lowers ran
  exact ⟨exchange.stream, last.stream, well.marked, well.marked.reset_not_mem, well.written⟩

/-- Chromium's `ToLowerASCII` gives lower case. -/
theorem chromium_lowers (text : Bytes) : LowerCase (Platform.chromium.toLower text) := by
  intro byte member
  obtain ⟨before, -, rfl⟩ := List.mem_map.mp member
  rintro ⟨above, below⟩
  revert above below
  by_cases letter : (65 ≤ before && before ≤ 90) = true
  · rw [if_pos letter]
    rw [Bool.and_eq_true, decide_eq_true_iff, decide_eq_true_iff] at letter
    simp only [UInt8.le_iff_toNat_le, UInt8.toNat_add, UInt8.reduceToNat] at letter ⊢
    omega
  · rw [if_neg letter]
    intro above below
    exact letter (by rw [Bool.and_eq_true, decide_eq_true_iff, decide_eq_true_iff]
                     exact ⟨above, below⟩)

/-- The header section of a response, with a name in upper case. -/
def serverHead : List Callback :=
  [.header (ascii "HTTP/1.1 200 OK" ++ crlf), .header (ascii "Server: x" ++ crlf), .header crlf]

/-- It comes to the only stream. -/
def headAlone : Transfer Platform.chromium (ascii "http://localhost/") := alone serverHead rfl

/-- The head of the example is marked. -/
theorem Transfer.sent_well_headAlone :
    ∃ stream, headAlone.last.streams 0 = some stream ∧
      Marked Platform.chromium .fresh stream.calls ∧ StreamCall.reset ∉ stream.calls ∧
      ∀ block ∈ stream.calls.filterMap StreamCall.block?, block.LowerNames :=
  headAlone.sent_well chromium_lowers

end QuicProxy
