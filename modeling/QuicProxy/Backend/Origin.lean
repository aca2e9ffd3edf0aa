import QuicProxy.Backend.StartUp
import QuicProxy.Backend.Registration

/-!
# Where requests go

The URL of a request is the backend's spec with the path of the client behind it.
`Outcome.keepsUrls` says that an event starts requests to such URLs only;
`onlyToBackend_iff` says for which start-up flags they lead to the backend that was
accepted.
-/

namespace QuicProxy

namespace BackendState

/-- Whatever is newly in the multi goes to the spec of the backend with something behind
it. -/
structure KeepsUrls (state next : BackendState) : Prop where
  backendUrl : next.backendUrl = state.backendUrl
  handles : ∀ easy handle, next.multi easy = some handle → state.multi easy = some handle ∨
    ∃ tail, handle.options.url = Bytes.cString (state.backendUrl ++ tail)

variable {platform : Platform} {state next : BackendState}

/-- An event that changes no URL. -/
theorem KeepsUrls.refl (state : BackendState) : KeepsUrls state state :=
  ⟨rfl, fun _ _ inMulti => .inl inMulti⟩

/-- Events that change no URL, one after the other. -/
theorem KeepsUrls.trans {middle last : BackendState} (first : KeepsUrls state middle)
    (second : KeepsUrls middle last) : KeepsUrls state last := by
  refine ⟨second.backendUrl.trans first.backendUrl, fun easy handle inMulti => ?_⟩
  rcases second.handles easy handle inMulti with earlier | ⟨tail, url⟩
  · exact first.handles easy handle earlier
  · exact .inr ⟨tail, by rw [url, first.backendUrl]⟩

/-- The same tables and the same spec. -/
theorem KeepsUrls.of_same (backendUrl : next.backendUrl = state.backendUrl)
    (multi : next.multi = state.multi) : KeepsUrls state next :=
  ⟨backendUrl, fun _ _ inMulti => .inl (multi ▸ inMulti)⟩

/-- One entry of the multi was written. -/
theorem KeepsUrls.of_update {easy : EasyRef} {entry : Option EasyHandle}
    (backendUrl : next.backendUrl = state.backendUrl)
    (multi : next.multi = Function.update state.multi easy entry)
    (url : ∀ handle, entry = some handle →
      ∃ tail, handle.options.url = Bytes.cString (state.backendUrl ++ tail)) :
    KeepsUrls state next := by
  refine ⟨backendUrl, fun other handle inMulti => ?_⟩
  rw [multi] at inMulti
  by_cases same : other = easy
  · subst same
    rw [Function.update_self] at inMulti
    exact .inr (url handle inMulti)
  · rw [Function.update_of_ne same] at inMulti
    exact .inl inMulti

/-! ## One event -/

/-- The URL that is configured is the proxy's, as a C string. -/
theorem startHttp_url (platform : Platform) (proxy : QuicProxyCurl) (peerIp : Bytes)
    (requestHeaders : SpdyHeaderBlock) (requestBody : Bytes) {options : EasyOptions}
    (configured : (proxy.startHttp platform peerIp requestHeaders requestBody).2 = some options) :
    options.url = Bytes.cString proxy.requestUrl := by
  simp only [QuicProxyCurl.startHttp] at configured
  split at configured
  · cases configured
  · split at configured
    · cases configured
      rfl
    · cases configured
      rfl

/-- The start of a request adds a handle that goes to the URL of its proxy. -/
theorem Fetched.keepsUrls {quicStream : StreamRef} {ref : ProxyRef} {easyInit : Option EasyRef}
    {peerIp : Bytes} {requestHeaders : SpdyHeaderBlock} {requestBody : Bytes}
    (fetched : Fetched platform quicStream ref easyInit peerIp requestHeaders requestBody state
      next) : KeepsUrls state next := by
  cases fetched with
  | @intro easy path stream given found lives =>
      unfold attached started
      cases configured : ((state.newProxy quicStream easy path).startHttp platform peerIp
        requestHeaders requestBody).2 with
      | none => exact .of_same rfl rfl
      | some options =>
          have url := startHttp_url platform _ peerIp requestHeaders requestBody configured
          have added : ∀ handle, some (EasyHandle.mk ref options) = some handle →
              ∃ tail, handle.options.url = Bytes.cString (state.backendUrl ++ tail) := by
            rintro _ ⟨⟩
            exact ⟨path.drop 1, url⟩
          exact .of_update rfl rfl added

/-- The end of a transfer leaves every URL. -/
theorem Finished.keepsUrls {easy : EasyRef} (finished : Finished easy state next) :
    KeepsUrls state next := by
  refine .of_update ?_ finished.multi fun _ entered => nomatch entered
  have moved (here : BackendState) : (here.moveToDeadList easy).backendUrl = here.backendUrl := by
    obtain ⟨hash, dead, moved⟩ := moveToDeadList_eq here easy
    rw [moved]
  cases finished with
  | unknown => rfl
  | alone => exact moved _
  | letGo => exact moved _

/-- An event starts requests to the backend's spec with something behind it, or none. -/
theorem Outcome.keepsUrls {event : BackendEvent} (outcome : Outcome platform state event next) :
    KeepsUrls state next := by
  cases outcome with
  | fetch fetched => exact fetched.keepsUrls
  | check checked =>
      cases checked with
      | cleared => exact .of_same rfl rfl
      | read reads =>
          exact reads.keeps (.refl state) fun easy result here there _ kept finished =>
            kept.trans finished.keepsUrls
  | socket _ called => exact .of_same called.onlySockets.backendUrl called.onlySockets.multi
  | destroyStream closed => cases closed <;> exact .of_same rfl rfl
  | header _ called | body _ called =>
      obtain ⟨-, -, accepted⟩ := called
      cases accepted <;> exact .of_same rfl rfl
  | acked acked => cases acked <;> exact .of_same rfl rfl
  | openStream | idle | finConsumed => exact .of_same rfl rfl

/-- In every run each handle goes to the spec of the backend with something behind it. -/
theorem urls_of_reachable {platform : Platform} {backendUrl : Bytes}
    (reachable : (system platform backendUrl).Reachable state) :
    state.backendUrl = backendUrl ∧ ∀ easy handle, state.multi easy = some handle →
      ∃ tail, handle.options.url = Bytes.cString (backendUrl ++ tail) := by
  let inv : LabelledSystem.Invariant (system platform backendUrl) := {
    Holds := fun state => state.backendUrl = backendUrl ∧
      ∀ easy handle, state.multi easy = some handle →
        ∃ tail, handle.options.url = Bytes.cString (backendUrl ++ tail)
    initial := by
      rintro state rfl
      exact ⟨rfl, fun _ _ inMulti => nomatch inMulti⟩
    preserved := by
      rintro here event there ⟨same, urls⟩ ⟨_, stepped⟩
      have kept := (step_iff.mp stepped).keepsUrls
      refine ⟨kept.backendUrl.trans same, fun easy handle inMulti => ?_⟩
      rcases kept.handles easy handle inMulti with earlier | added
      · exact urls easy handle earlier
      · rwa [same] at added }
  exact inv.of_reachable reachable

end BackendState

namespace BackendSetup

open BackendState

variable (parse : Bytes → Gurl)

/-- In every run of a worker that serves, every request goes to a backend that
`InitializeBackend` accepted; without one no request is started. -/
def OnlyToBackend (platform : Platform) (quicProxyBackendUrl : Bytes) : Prop :=
  ∀ state, ((startUp parse quicProxyBackendUrl).2.serves platform).Reachable state →
    ∀ easy handle, state.multi easy = some handle →
      ∃ url, Accepts parse quicProxyBackendUrl url ∧
        readTarget handle.options.url = url.target

/-- What is appended to a spec does not change where the URL leads. -/
theorem readTarget_spec (url : HttpUrl) (tail : Bytes) :
    readTarget (Bytes.cString (url.spec ++ tail)) = url.target := by
  have schemeBytes : ∀ byte ∈ url.scheme, isSchemeByte byte = true ∧ byte ≠ nul := by
    rcases url.isHttp with scheme | scheme
    · rw [scheme]
      decide +kernel
    · rw [scheme]
      decide +kernel
  have noNul : nul ∉ url.scheme ++ ascii "://" ++ (url.authority ++ ascii "/") := by
    simp only [List.mem_append, not_or]
    refine ⟨⟨fun inScheme => (schemeBytes nul inScheme).2 rfl, by decide +kernel⟩, ?_, ?_⟩
    · exact fun inAuthority => (url.inside nul inAuthority).2 rfl
    · decide +kernel
  have split : url.spec ++ tail =
      (url.scheme ++ ascii "://" ++ (url.authority ++ ascii "/")) ++ (url.rest ++ tail) := by
    simp only [HttpUrl.spec, List.append_assoc]
  have front : url.scheme ++ ascii "://" ++ (url.authority ++ ascii "/") ++
      Bytes.cString (url.rest ++ tail) =
        url.scheme ++ ascii "://" ++ (url.authority ++ ascii "/" ++
          Bytes.cString (url.rest ++ tail)) := by
    simp only [List.append_assoc]
  rw [split, cString_append _ noNul, front]
  exact readTarget_url (fun byte member => (schemeBytes byte member).1)
    (fun byte member => (url.inside byte member).1) _

/-- A stream opens and asks for `/`. -/
theorem request_reachable {platform : Platform}
    (token : platform.isValidHeaderName (ascii "GET") = true) (backendUrl : Bytes) :
    ∃ state handle, (system platform backendUrl).Reachable state ∧
      state.multi 0 = some handle := by
  let opened := (initial backendUrl).openStream 0
  have start : (system platform backendUrl).Reachable (initial backendUrl) := .start rfl
  have mayOpen : (initial backendUrl).Enabled (.openStream 0) := rfl
  have reachable : (system platform backendUrl).Reachable opened := start.next ⟨mayOpen, rfl⟩
  have enabled : opened.Enabled oneFetch := by
    refine ⟨rfl, rfl, rfl, ?_⟩
    intro easy _ ref proxy lives
    cases lives
  obtain ⟨path, found⟩ : ∃ path, getRequest.find (ascii ":path") = some path := ⟨_, rfl⟩
  obtain ⟨next, fetched⟩ : ∃ next, Fetched platform 0 0 (some 0) (ascii "192.0.2.7") getRequest []
      opened next := ⟨_, rfl, found, rfl⟩
  have stepped : opened.step platform oneFetch = .ok next := step_iff.mpr (.fetch fetched)
  obtain ⟨easy, given, links⟩ := fetched.links
  obtain rfl := Option.some.inj given
  have method : methodOf getRequest = ascii "GET" := by decide +kernel
  have inMulti : (next.multi 0).map EasyHandle.privateData = some 0 := by
    change next.links.multi 0 = some 0
    rw [links, method, token]
    exact Function.update_self (0 : EasyRef) (some 0) opened.links.multi
  obtain ⟨handle, handled, _⟩ := Option.map_eq_some_iff.mp inMulti
  exact ⟨next, handle, reachable.next ⟨enabled, stepped⟩, handled⟩

/-- Requests go to the backend's host and nowhere else exactly if the flag names an HTTP
URL: with the empty flag the client chooses the host, and with another scheme the flag
does. -/
theorem onlyToBackend_iff (platform : Platform)
    (token : platform.isValidHeaderName (ascii "GET") = true) (quicProxyBackendUrl : Bytes) :
    OnlyToBackend parse platform quicProxyBackendUrl ↔
      NamesHttpUrl parse quicProxyBackendUrl := by
  constructor
  · intro only
    obtain ⟨state, handle, reachable, inMulti⟩ :=
      request_reachable token (startUp parse quicProxyBackendUrl).2.backendUrl.spec
    obtain ⟨url, accepted, _⟩ := only state reachable 0 handle inMulti
    obtain ⟨given, named⟩ := (accepts_iff parse quicProxyBackendUrl url).mp accepted
    exact ⟨given, url, named⟩
  · rintro ⟨given, url, named⟩
    have accepted := (accepts_iff parse quicProxyBackendUrl url).mpr ⟨given, named⟩
    intro state reachable easy handle inMulti
    rw [serves_accepted parse accepted] at reachable
    obtain ⟨tail, handed⟩ := (urls_of_reachable reachable).2 easy handle inMulti
    exact ⟨url, accepted, by rw [handed, readTarget_spec]⟩

/-- A backend on the same host. -/
def localhost : HttpUrl where
  scheme := ascii "http"
  authority := ascii "localhost"
  rest := []
  isHttp := .inl rfl
  inside := by decide +kernel

/-- `GURL` on that one URL; other texts are left aside. -/
def parseLocalhost (text : Bytes) : Gurl :=
  if text = ascii "http://localhost" then .http localhost else .invalid

/-- A backend on the same host. -/
theorem onlyToBackend_iff_localhost :
    OnlyToBackend parseLocalhost Platform.chromium (ascii "http://localhost") ↔
      NamesHttpUrl parseLocalhost (ascii "http://localhost") :=
  onlyToBackend_iff parseLocalhost Platform.chromium (by decide +kernel) (ascii "http://localhost")

/-- A client asks for `/http://example.com/`. -/
def absolutePath : SpdyHeaderBlock :=
  (SpdyHeaderBlock.empty.set (ascii ":method") (ascii "GET")).set (ascii ":path")
    (ascii "/http://example.com/")

/-- The stream that was opened asks for it. -/
def absoluteFetch : BackendEvent := .fetch 0 0 (some 0) (ascii "192.0.2.7") absolutePath []

/-- With the flag left empty the client names the server its request goes to. -/
theorem open_proxy_without_flag :
    (∃ state handle, ((startUp parseLocalhost []).2.serves Platform.chromium).Reachable state ∧
      state.multi 0 = some handle ∧
      readTarget handle.options.url = ⟨some (ascii "http"), ascii "example.com"⟩) ∧
    ¬ ∀ quicProxyBackendUrl,
      OnlyToBackend parseLocalhost Platform.chromium quicProxyBackendUrl := by
  have start : ((startUp parseLocalhost []).2.serves Platform.chromium).Reachable (initial []) :=
    .start rfl
  have mayOpen : (initial []).Enabled (.openStream 0) := rfl
  have opened : ((startUp parseLocalhost []).2.serves Platform.chromium).Reachable
      ((initial []).openStream 0) := start.next ⟨mayOpen, rfl⟩
  have enabled : ((initial []).openStream 0).Enabled absoluteFetch := by
    refine ⟨rfl, rfl, rfl, ?_⟩
    intro easy _ ref proxy lives
    cases lives
  have requested : ((startUp parseLocalhost []).2.serves Platform.chromium).Reachable
      (((initial []).openStream 0).take Platform.chromium absoluteFetch) :=
    opened.next ⟨enabled, rfl⟩
  refine ⟨⟨_, _, requested, rfl, by decide +kernel⟩, fun claimed => ?_⟩
  obtain ⟨url, accepted, _⟩ := claimed [] _ requested 0 _ rfl
  cases accepted.1

end BackendSetup

end QuicProxy
