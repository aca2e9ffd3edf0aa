import QuicProxy.Backend.Process

/-!
# How streams and transfers are served

The functions of the backend are programs: they read objects of the heap, fail where one has
been destroyed, and write. For each there is a relation with a constructor for every way it can
return: what it has read is in the hypotheses, what it leaves is the state at the end. Here they
are for the functions that serve a stream and its transfer, the others follow in `Outcomes`.
-/

namespace QuicProxy

namespace QuicProxyCurl

/-- Of a proxy nothing has changed but what it holds of the response. -/
structure SameRequest (proxy kept : QuicProxyCurl) : Prop where
  sockfd : kept.sockfd = proxy.sockfd
  easy : kept.easy = proxy.easy
  quicStream : kept.quicStream = proxy.quicStream
  requestBody : kept.requestBody = proxy.requestBody
  requestBodyPos : kept.requestBodyPos = proxy.requestBodyPos

/-- The callback changes nothing else. -/
def OnlyResponds (callback : QuicProxyCurl → Option CallbackResult) : Prop :=
  ∀ proxy result, callback proxy = some result → SameRequest proxy result.proxy

/-- A header line, like every callback, moves the place in the response only. -/
theorem httpHeaderCallback_onlyResponds (platform : Platform) (contents : Bytes) :
    OnlyResponds fun proxy => proxy.httpHeaderCallback platform contents := by
  intro proxy result called
  simp only [httpHeaderCallback] at called
  split at called
  · cases called
    exact ⟨rfl, rfl, rfl, rfl, rfl⟩
  · split at called
    · cases called
      exact ⟨rfl, rfl, rfl, rfl, rfl⟩
    · split at called
      · cases called
      · cases called
        exact ⟨rfl, rfl, rfl, rfl, rfl⟩

/-- A piece of the body moves the place in the response only. -/
theorem writeQuicCallback_onlyResponds (contents : Bytes) :
    OnlyResponds fun proxy => some (proxy.writeQuicCallback contents) := by
  rintro proxy result ⟨⟩
  unfold writeQuicCallback
  split
  · exact ⟨rfl, rfl, rfl, rfl, rfl⟩
  · exact ⟨rfl, rfl, rfl, rfl, rfl⟩

end QuicProxyCurl

namespace BackendState

variable {platform : Platform} {state next : BackendState}

/-! ## Reading an object -/

/-- Following a pointer to a proxy that exists. -/
theorem proxy_iff {ref : ProxyRef} {proxy : QuicProxyCurl} :
    state.proxy ref = .ok proxy ↔ state.proxies ref = some proxy := by
  unfold BackendState.proxy
  cases state.proxies ref <;> simp

/-- Following a pointer to a stream that exists. -/
theorem stream_iff {quicStream : StreamRef} {stream : QuicProxyStream} :
    state.stream quicStream = .ok stream ↔ state.streams quicStream = some stream := by
  unfold BackendState.stream
  cases state.streams quicStream <;> simp

/-- A function that reads a proxy and goes on. -/
theorem bind_proxy_iff {ref : ProxyRef} {rest : QuicProxyCurl → Except Fault BackendState} :
    (state.proxy ref >>= rest) = .ok next ↔
      ∃ proxy, state.proxies ref = some proxy ∧ rest proxy = .ok next := by
  simp only [bind_eq_ok, proxy_iff]

/-- What is done with a stream is done only if it exists. -/
theorem bind_stream_iff {quicStream : StreamRef}
    {rest : QuicProxyStream → Except Fault BackendState} :
    (state.stream quicStream >>= rest) = .ok next ↔
      ∃ stream, state.streams quicStream = some stream ∧ rest stream = .ok next := by
  simp only [bind_eq_ok, stream_iff]

/-! ## Streams -/

/-- `CloseBackendResponseStream`: stream and proxy let go of each other, if there is one. -/
inductive Closed (quicStream : StreamRef) (state : BackendState) : BackendState → Prop where
  | apart {stream} (lives : state.streams quicStream = some stream)
      (nowhere : stream.quicProxyCurl = none) : Closed quicStream state state
  | letGo {stream ref proxy} (lives : state.streams quicStream = some stream)
      (points : stream.quicProxyCurl = some ref) (proxyLives : state.proxies ref = some proxy) :
      Closed quicStream state ((state.putProxy ref (proxy.setStream none)).putStream quicStream
        (stream.setProxyCurl none))

/-- `Closed` is what closing the response comes to. -/
theorem closeBackendResponseStream_iff {quicStream : StreamRef} :
    state.closeBackendResponseStream quicStream = .ok next ↔ Closed quicStream state next := by
  unfold closeBackendResponseStream
  rw [bind_stream_iff]
  constructor
  · rintro ⟨stream, lives, returned⟩
    cases points : stream.quicProxyCurl with
    | none =>
        simp only [points] at returned
        cases returned
        exact .apart lives points
    | some ref =>
        simp only [points, bind_proxy_iff] at returned
        obtain ⟨proxy, proxyLives, ⟨⟩⟩ := returned
        exact .letGo lives points proxyLives
  · rintro (⟨lives, nowhere⟩ | ⟨lives, points, proxyLives⟩)
    · exact ⟨_, lives, by simp only [nowhere]⟩
    · refine ⟨_, lives, ?_⟩
      simp only [points, bind_proxy_iff]
      exact ⟨_, proxyLives, rfl⟩

/-- A stream object is gone. -/
def dropStream (state : BackendState) (quicStream : StreamRef) : BackendState :=
  { state with
    streams := Function.update state.streams quicStream none
    requested := Function.update state.requested quicStream false }

/-- `OnStreamFrameAcked` -/
inductive Acked (quicStream : StreamRef) (bufferedDataBytes : Nat) (state : BackendState) :
    BackendState → Prop where
  | attached {stream ref proxy} (lives : state.streams quicStream = some stream)
      (points : stream.quicProxyCurl = some ref) (proxyLives : state.proxies ref = some proxy) :
      Acked quicStream bufferedDataBytes state state
  | apart {stream} (lives : state.streams quicStream = some stream)
      (nowhere : stream.quicProxyCurl = none) : Acked quicStream bufferedDataBytes state
        (state.putStream quicStream (stream.onStreamFrameAcked bufferedDataBytes))

/-- `Acked` is what an acknowledgement comes to. -/
theorem onStreamFrameAcked_iff {quicStream : StreamRef} {bufferedDataBytes : Nat} :
    state.onStreamFrameAcked quicStream bufferedDataBytes = .ok next ↔
      Acked quicStream bufferedDataBytes state next := by
  unfold onStreamFrameAcked
  rw [bind_stream_iff]
  constructor
  · rintro ⟨stream, lives, returned⟩
    cases points : stream.quicProxyCurl with
    | none =>
        simp only [points] at returned
        cases returned
        exact .apart lives points
    | some ref =>
        simp only [points, bind_proxy_iff] at returned
        obtain ⟨proxy, proxyLives, ⟨⟩⟩ := returned
        exact .attached lives points proxyLives
  · rintro (⟨lives, points, proxyLives⟩ | ⟨lives, nowhere⟩)
    · refine ⟨_, lives, ?_⟩
      simp only [points, bind_proxy_iff]
      exact ⟨_, proxyLives, trivial⟩
    · exact ⟨_, lives, by simp only [nowhere]⟩

/-! ## Callbacks of a transfer -/

/-- What a callback did reaches its proxy, and its calls the proxy's stream. -/
inductive Accepted (ref : ProxyRef) (target : Option StreamRef) (result : CallbackResult)
    (state : BackendState) : BackendState → Prop where
  | silent (nothing : target = none ∨ result.calls = []) :
      Accepted ref target result state (state.putProxy ref result.proxy)
  | calls {quicStream stream} (points : target = some quicStream) (speaks : result.calls ≠ [])
      (lives : state.streams quicStream = some stream) : Accepted ref target result state
        ((state.putProxy ref result.proxy).putStream quicStream (stream.call result.calls))

/-- `Accepted` is what the calls of a callback come to. -/
theorem accept_iff {ref : ProxyRef} {target : Option StreamRef} {result : CallbackResult} :
    state.accept ref target result = .ok next ↔ Accepted ref target result state next := by
  unfold accept
  constructor
  · intro returned
    cases points : target with
    | none =>
        subst points
        cases returned
        exact .silent (.inl rfl)
    | some quicStream =>
        subst points
        cases made : result.calls with
        | nil =>
            simp only [made] at returned
            cases returned
            exact .silent (.inr made)
        | cons call rest =>
            simp only [made, bind_stream_iff] at returned
            obtain ⟨stream, lives, ⟨⟩⟩ := returned
            rw [← made]
            exact .calls rfl (by simp [made]) lives
  · rintro (⟨rfl | nothing⟩ | ⟨rfl, speaks, lives⟩)
    · rfl
    · cases target with
      | none => rfl
      | some quicStream => simp only [nothing]
    · cases made : result.calls with
      | nil => exact absurd made speaks
      | cons call rest =>
          simp only [bind_stream_iff]
          exact ⟨_, lives, rfl⟩

/-- libcurl calls a proxy back. -/
inductive Called (callback : QuicProxyCurl → Option CallbackResult) (ref : ProxyRef)
    (state next : BackendState) : Prop where
  | intro {proxy result} (lives : state.proxies ref = some proxy)
      (called : callback proxy = some result)
      (accepted : Accepted ref proxy.quicStream result state next)

/-- `Called` is what libcurl's header callback comes to. -/
theorem httpHeaderCallback_iff {ref : ProxyRef} {contents : Bytes} :
    state.httpHeaderCallback platform ref contents = .ok next ↔
      Called (fun proxy => proxy.httpHeaderCallback platform contents) ref state next := by
  unfold httpHeaderCallback
  rw [bind_proxy_iff]
  constructor
  · rintro ⟨proxy, lives, returned⟩
    cases called : proxy.httpHeaderCallback platform contents with
    | none =>
        simp only [called] at returned
        cases returned
    | some result =>
        simp only [called, accept_iff] at returned
        exact ⟨lives, called, returned⟩
  · rintro ⟨lives, called, accepted⟩
    refine ⟨_, lives, ?_⟩
    simp only [called, accept_iff]
    exact accepted

/-- `Called` is what libcurl's body callback comes to. -/
theorem writeQuicCallback_iff {ref : ProxyRef} {contents : Bytes} :
    state.writeQuicCallback ref contents = .ok next ↔
      Called (fun proxy => some (proxy.writeQuicCallback contents)) ref state next := by
  unfold writeQuicCallback
  simp only [bind_proxy_iff, accept_iff]
  constructor
  · rintro ⟨proxy, lives, accepted⟩
    exact ⟨lives, rfl, accepted⟩
  · rintro ⟨lives, ⟨⟩, accepted⟩
    exact ⟨_, lives, accepted⟩

/-! ## Starting a request -/

/-- The proxy `CreateProxyCurl` makes. -/
def newProxy (state : BackendState) (quicStream : StreamRef) (easy : EasyRef) (path : Bytes) :
    QuicProxyCurl :=
  { QuicProxyCurl.create (state.backendUrl ++ path.drop 1) quicStream with easy := some easy }

/-- A stream has asked, and a proxy has been started for it; with options its handle is in the
multi. -/
def attached (state : BackendState) (quicStream : StreamRef) (stream : QuicProxyStream)
    (ref : ProxyRef) (easy : EasyRef) (started : QuicProxyCurl × Option EasyOptions) :
    BackendState :=
  { state with
    streams := Function.update state.streams quicStream (some (stream.setProxyCurl (some ref)))
    requested := Function.update state.requested quicStream true
    proxies := Function.update state.proxies ref (some started.1)
    proxyHttpHash := Function.update state.proxyHttpHash easy (some ref)
    multi := started.2.elim state.multi fun options =>
      Function.update state.multi easy (some ⟨ref, options⟩) }

@[simp] theorem attached_proxies (state : BackendState) (quicStream : StreamRef)
    (stream : QuicProxyStream) (ref : ProxyRef) (easy : EasyRef)
    (started : QuicProxyCurl × Option EasyOptions) :
    (state.attached quicStream stream ref easy started).proxies =
      Function.update state.proxies ref (some started.1) := rfl

/-- The request is configured for a proxy that is new. -/
def started (platform : Platform) (state : BackendState) (quicStream : StreamRef)
    (easy : EasyRef) (path peerIp : Bytes) (requestHeaders : SpdyHeaderBlock)
    (requestBody : Bytes) : QuicProxyCurl × Option EasyOptions :=
  (state.newProxy quicStream easy path).startHttp platform peerIp requestHeaders requestBody

/-- A stream asks for its response: `FetchResponseFromBackend`. -/
inductive Fetched (platform : Platform) (quicStream : StreamRef) (ref : ProxyRef)
    (easyInit : Option EasyRef) (peerIp : Bytes) (requestHeaders : SpdyHeaderBlock)
    (requestBody : Bytes) (state : BackendState) : BackendState → Prop where
  | intro {easy path stream} (given : easyInit = some easy)
      (found : requestHeaders.find (ascii ":path") = some path)
      (lives : state.streams quicStream = some stream) :
      Fetched platform quicStream ref easyInit peerIp requestHeaders requestBody state
        (state.attached quicStream stream ref easy
          (state.started platform quicStream easy path peerIp requestHeaders requestBody))

/-- `StartHttp` keeps the handle that `InitProxyCurl` made. -/
theorem easy_startHttp (platform : Platform) (proxy : QuicProxyCurl) (peerIp : Bytes)
    (requestHeaders : SpdyHeaderBlock) (requestBody : Bytes) :
    (proxy.startHttp platform peerIp requestHeaders requestBody).1.easy = proxy.easy := by
  simp only [QuicProxyCurl.startHttp]
  split
  · rfl
  · split <;> rfl

/-- `StartHttp` on a proxy that has its handle. -/
theorem startHttp_eq {ref : ProxyRef} {proxy : QuicProxyCurl} {easy : EasyRef}
    (lives : state.proxies ref = some proxy) (owns : proxy.easy = some easy) (peerIp : Bytes)
    (requestHeaders : SpdyHeaderBlock) (requestBody : Bytes) :
    state.startHttp platform ref peerIp requestHeaders requestBody =
      .ok { state.putProxy ref
          (proxy.startHttp platform peerIp requestHeaders requestBody).1 with
        multi := (proxy.startHttp platform peerIp requestHeaders requestBody).2.elim state.multi
          fun options => Function.update state.multi easy (some ⟨ref, options⟩) } := by
  unfold startHttp
  rw [bind_proxy_iff]
  refine ⟨proxy, lives, ?_⟩
  have kept := easy_startHttp platform proxy peerIp requestHeaders requestBody
  rcases configured : proxy.startHttp platform peerIp requestHeaders requestBody with
    ⟨started, options⟩
  rw [configured] at kept
  have still : started.easy = some easy := kept.trans owns
  cases options with
  | none => rfl
  | some options =>
      simp only [still]
      rfl

/-- `FetchResponseFromBackend` goes on to `StartHttp` on the proxy it has made. -/
theorem fetch_iff {quicStream : StreamRef} {ref : ProxyRef} {easyInit : Option EasyRef}
    {peerIp : Bytes} {requestHeaders : SpdyHeaderBlock} {requestBody : Bytes} :
    ({ state with requested := Function.update state.requested quicStream true
      } : BackendState).fetchResponseFromBackend platform ref easyInit peerIp requestHeaders
        requestBody quicStream = .ok next ↔
      Fetched platform quicStream ref easyInit peerIp requestHeaders requestBody state next := by
  let asked : BackendState :=
    { state with requested := Function.update state.requested quicStream true }
  have goesOn {path : Bytes} {easy : EasyRef} {stream : QuicProxyStream} :
      ((asked.createProxyCurl ref (some easy) (state.backendUrl ++ path.drop 1)
        quicStream).2.putStream quicStream (stream.setProxyCurl (some ref))).startHttp platform
        ref peerIp requestHeaders requestBody = .ok (state.attached quicStream stream ref easy
          (state.started platform quicStream easy path peerIp requestHeaders requestBody)) := by
    rw [startHttp_eq (Function.update_self ..) rfl]
    simp only [createProxyCurl, putStream, putProxy, Function.update_idem]
    rfl
  unfold fetchResponseFromBackend
  constructor
  · intro returned
    cases found : requestHeaders.find (ascii ":path") with
    | none =>
        simp only [found] at returned
        cases returned
    | some path =>
        cases easyInit with
        | none =>
            simp only [found, bind_stream_iff] at returned
            obtain ⟨stream, lives, returned⟩ := returned
            cases returned
        | some easy =>
            simp only [found, bind_stream_iff] at returned
            obtain ⟨stream, lives, returned⟩ := returned
            cases goesOn.symm.trans returned
            exact ⟨rfl, found, lives⟩
  · rintro ⟨rfl, found, lives⟩
    simp only [found, bind_stream_iff]
    exact ⟨_, lives, goesOn⟩

end BackendState

end QuicProxy
