import QuicProxy.Backend.Process
import QuicProxy.Http.Url

/-!
# The start of a worker

`worker()` takes the URL of the backend from a flag and goes on to serve whatever came
of it. Assumed of `GURL`: the spec of a valid http or https URL is
`scheme://authority/rest`, that of a default or an invalid one is empty, and that of a
valid URL of another scheme is the URL; how a text is parsed is a parameter.
-/

namespace QuicProxy

/-- The spec of a valid http or https URL. -/
structure HttpUrl where
  scheme : Bytes
  authority : Bytes
  rest : Bytes
  isHttp : scheme = ascii "http" ∨ scheme = ascii "https"
  inside : ∀ byte ∈ authority, endsAuthority byte = false ∧ byte ≠ nul

namespace HttpUrl

/-- The URL as `spec()` gives it. -/
def spec (url : HttpUrl) : Bytes :=
  url.scheme ++ ascii "://" ++ (url.authority ++ ascii "/" ++ url.rest)

/-- Scheme, host and port. -/
def target (url : HttpUrl) : UrlTarget := ⟨some url.scheme, url.authority⟩

end HttpUrl

/-- A `GURL`. -/
inductive Gurl where
  | invalid
  | http (url : HttpUrl)
  | other (spec : Bytes)

namespace Gurl

/-- The text of a parsed URL. -/
def spec : Gurl → Bytes
  | invalid => []
  | http url => url.spec
  | other spec => spec

/-- Chromium's `is_valid`. -/
def isValid : Gurl → Bool
  | invalid => false
  | http _ | other _ => true

/-- `SchemeIsHTTPOrHTTPS` -/
def schemeIsHttpOrHttps : Gurl → Bool
  | http _ => true
  | invalid | other _ => false

end Gurl

/-- What `QuicProxyBackend` keeps of its set-up. -/
structure BackendSetup where
  backendUrl : Gurl
  cacheInitialized : Bool

namespace BackendSetup

/-- The constructor. -/
def create : BackendSetup := ⟨.invalid, false⟩

variable (parse : Bytes → Gurl)

/-- `QuicProxyBackend::InitializeBackend`: the URL is stored before it is checked. -/
def initializeBackend (setup : BackendSetup) (backendUrl : Bytes) : Bool × BackendSetup :=
  if backendUrl = [] then
    (false, setup)
  else
    let setup := { setup with backendUrl := parse backendUrl }
    if !setup.backendUrl.isValid || !setup.backendUrl.schemeIsHttpOrHttps then
      (false, setup)
    else
      (true, { setup with cacheInitialized := true })

/-- The set-up with which `worker` serves, and what `InitializeBackend` returned to it,
where it was called; the result is dropped. -/
def startUp (quicProxyBackendUrl : Bytes) : Option Bool × BackendSetup :=
  if quicProxyBackendUrl = [] then
    (none, create)
  else
    let (initialized, setup) := create.initializeBackend parse quicProxyBackendUrl
    (some initialized, setup)

/-- The worker serves with this set-up. -/
def serves (platform : Platform) (setup : BackendSetup) :
    LabelledSystem BackendState BackendEvent :=
  BackendState.system platform setup.backendUrl.spec

/-- `InitializeBackend` has accepted the URL. -/
def Accepts (quicProxyBackendUrl : Bytes) (url : HttpUrl) : Prop :=
  (startUp parse quicProxyBackendUrl).1 = some true ∧
    (startUp parse quicProxyBackendUrl).2.backendUrl = .http url

/-- The flag names a valid http or https URL. -/
def NamesHttpUrl (quicProxyBackendUrl : Bytes) : Prop :=
  quicProxyBackendUrl ≠ [] ∧ ∃ url, parse quicProxyBackendUrl = .http url

/-- Only a flag that parses to an http or https URL is accepted. -/
theorem accepts_iff (quicProxyBackendUrl : Bytes) (url : HttpUrl) :
    Accepts parse quicProxyBackendUrl url ↔
      quicProxyBackendUrl ≠ [] ∧ parse quicProxyBackendUrl = .http url := by
  unfold Accepts startUp
  by_cases absent : quicProxyBackendUrl = []
  · simp [absent]
  · rw [if_neg absent]
    simp only [initializeBackend, if_neg absent, create]
    cases parse quicProxyBackendUrl with
    | invalid => simp [Gurl.isValid]
    | http found => simp [Gurl.isValid, Gurl.schemeIsHttpOrHttps, absent]
    | other spec => simp [Gurl.isValid, Gurl.schemeIsHttpOrHttps]

/-- With an accepted URL the worker serves it. -/
theorem serves_accepted {quicProxyBackendUrl : Bytes} {url : HttpUrl}
    (accepted : Accepts parse quicProxyBackendUrl url) (platform : Platform) :
    (startUp parse quicProxyBackendUrl).2.serves platform =
      BackendState.system platform url.spec := by
  rw [serves, accepted.2]
  rfl

end BackendSetup

end QuicProxy
