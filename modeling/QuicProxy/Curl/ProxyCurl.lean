import QuicProxy.Curl.HeaderBlock

/-!
# One backend transfer

`QuicProxyCurl` carries one request to the backend and its response to a QUIC
stream. libcurl calls `httpHeaderCallback` for every header line of every
response of the transfer, `writeQuicCallback` for the pieces of the body that is
delivered, and `readQuicCallback` for the body that is uploaded; `startHttp`
configures the easy handle.

A callback returns a `size_t` to libcurl, changes the proxy and makes calls on
its stream. Fields of the class that only log lines read are left out.
-/

namespace QuicProxy

/-- Identity of a `QuicProxyStream` object. -/
abbrev StreamRef := Nat

/-- Identity of a `QuicProxyCurl` object. -/
abbrev ProxyRef := Nat

/-- A `CURL*`. -/
abbrev EasyRef := Nat

/-- A `CURLcode`, as far as the code could tell results apart. -/
inductive CurlCode where
  | ok
  | failed (code : Nat)
deriving DecidableEq

/-- What the code uses of the base libraries: the value `StringToSizeT` leaves in
its output argument, `ToLower`, and `HttpUtil::IsValidHeaderName`. -/
structure Platform where
  stringToSizeT : Bytes → UInt64
  toLower : Bytes → Bytes
  isValidHeaderName : Bytes → Bool

namespace Platform

/-- An ASCII digit. -/
def isDigit (byte : UInt8) : Bool := 48 ≤ byte && byte ≤ 57

/-- The digits at the front of a text, cut off at the largest `size_t`. -/
def parseDigits (value : Nat) : Bytes → UInt64
  | [] => .ofNat value
  | byte :: rest =>
      if isDigit byte then
        let next := 10 * value + (byte.toNat - 48)
        if UInt64.size ≤ next then .ofNat (UInt64.size - 1) else parseDigits next rest
      else .ofNat value

/-- The value `base::StringToSizeT` leaves, also where it reports failure. -/
def chromiumStringToSizeT (text : Bytes) : UInt64 :=
  match text.dropWhile fun byte => byte == 32 || (9 ≤ byte && byte ≤ 13) with
  | 45 :: _ => 0
  | 43 :: rest => parseDigits 0 rest
  | rest => parseDigits 0 rest

/-- ASCII letters in lower case, other bytes as they are. -/
def chromiumToLower (text : Bytes) : Bytes :=
  text.map fun byte => if 65 ≤ byte && byte ≤ 90 then byte + 32 else byte

/-- A `tchar` of HTTP/1.1. -/
def isTokenByte (byte : UInt8) : Bool :=
  isDigit byte || (65 ≤ byte && byte ≤ 90) || (97 ≤ byte && byte ≤ 122) ||
    (ascii "!#$%&'*+-.^_|~").contains byte || byte == 96

/-- The functions as the base libraries define them. -/
def chromium : Platform where
  stringToSizeT := chromiumStringToSizeT
  toLower := chromiumToLower
  isValidHeaderName := fun text => text != [] && text.all isTokenByte

end Platform

/-- `CURLE_WRITE_ERROR` -/
def curleWriteError : UInt64 := 23

/-- A call the code can make on a stream. Nothing in the repository resets one. -/
inductive StreamCall where
  | writeHeaders (block : SpdyHeaderBlock) (fin : Bool)
  | writeOrBufferBody (body : Bytes) (fin : Bool)
  | reset
deriving DecidableEq

/-- The options `StartHttp` sets on the easy handle; `upload` is the announced
`INFILESIZE` where `UPLOAD` is set. -/
structure EasyOptions where
  url : Bytes
  customRequest : Bytes
  httpHeader : List Bytes
  followLocation : Bool
  upload : Option Nat
deriving DecidableEq

/-- A proxy between one stream and one libcurl handle. -/
structure QuicProxyCurl where
  sockfd : Int
  easy : Option EasyRef
  requestUrl : Bytes
  quicStream : Option StreamRef
  spdyHeaders : SpdyHeaderBlock
  contentLength : UInt64
  hadSendLength : UInt64
  requestHeaderList : List Bytes
  requestBody : Bytes
  requestBodyPos : UInt64

/-- What a libcurl callback did. -/
structure CallbackResult where
  returned : UInt64
  proxy : QuicProxyCurl
  calls : List StreamCall

/-- What one line of a header section says: a status line, a status line without
a space, a field, or a line without `": "`. -/
inductive HeaderReading where
  | status (code : Bytes)
  | badStatus
  | field (name value : Bytes)
  | noField
deriving DecidableEq

/-- The reading of a line without its terminator. -/
def readHeader (line : Bytes) : HeaderReading :=
  if line.substr 0 4 = ascii "HTTP" then
    match line.find (ascii " ") with
    | none => .badStatus
    | some pos => .status (line.substr (pos + 1) 3)
  else
    match line.find (ascii ": ") with
    | none => .noField
    | some pos => .field (line.substr 0 pos) (line.drop (pos + 2))

namespace QuicProxyCurl

/-- The constructor. -/
def create (requestUrl : Bytes) (quicStream : StreamRef) : QuicProxyCurl where
  sockfd := -1
  easy := none
  requestUrl := requestUrl
  quicStream := some quicStream
  spdyHeaders := .empty
  contentLength := 0
  hadSendLength := 0
  requestHeaderList := []
  requestBody := []
  requestBodyPos := 0

/-- `set_stream` -/
def setStream (proxy : QuicProxyCurl) (stream : Option StreamRef) : QuicProxyCurl :=
  { proxy with quicStream := stream }

/-- `set_sockfd` -/
def setSockfd (proxy : QuicProxyCurl) (fd : Int) : QuicProxyCurl :=
  { proxy with sockfd := fd }

/-- `size * nmemb`; libcurl passes the bytes of `contents`. -/
def realSize (contents : Bytes) : UInt64 := .ofNat contents.length

/-- The fin decision at the end of a header section. -/
def finOnHeaders (block : SpdyHeaderBlock) (contentLength : UInt64) : Bool :=
  let httpStatus := (block.find (ascii ":status")).getD []
  let transferEncoding := (block.find (ascii "transfer-encoding")).getD []
  contentLength == 0 &&
    !(httpStatus == ascii "200" || httpStatus == ascii "100" ||
      transferEncoding == ascii "chunked")

variable (platform : Platform)

/-- The end of a header section: the block goes to the stream and, having been
moved from, is empty afterwards. -/
def endOfHeaders (proxy : QuicProxyCurl) : QuicProxyCurl × StreamCall :=
  let contentLength :=
    match proxy.spdyHeaders.find (ascii "content-length") with
    | some value => platform.stringToSizeT value
    | none => proxy.contentLength
  ({ proxy with contentLength := contentLength, spdyHeaders := .empty },
    .writeHeaders proxy.spdyHeaders (finOnHeaders proxy.spdyHeaders contentLength))

/-- Keep what a line says in the block being built. -/
def store (block : SpdyHeaderBlock) : HeaderReading → SpdyHeaderBlock
  | .status code => block.set (ascii ":status") code
  | .field name value => block.appendValueOrAddHeader (platform.toLower name) value
  | .badStatus | .noField => block

/-- `QuicProxyCurl::HttpHeaderCallback`. There is no result where `real_size - 2`
wraps below zero: the line is then read outside its buffer. -/
def httpHeaderCallback (proxy : QuicProxyCurl) (contents : Bytes) : Option CallbackResult :=
  if proxy.quicStream = none then
    some ⟨curleWriteError, proxy, []⟩
  else if contents = crlf then
    let (ended, call) := proxy.endOfHeaders platform
    some ⟨realSize contents, ended, [call]⟩
  else if contents.length < 2 then
    none
  else
    let reading := readHeader (contents.take (contents.length - 2))
    let returned := if reading = .badStatus then 0 else realSize contents
    some ⟨returned, { proxy with spdyHeaders := store platform proxy.spdyHeaders reading }, []⟩

/-- `QuicProxyCurl::WriteQuicCallback` -/
def writeQuicCallback (proxy : QuicProxyCurl) (contents : Bytes) : CallbackResult :=
  if proxy.quicStream = none then
    ⟨curleWriteError, proxy, []⟩
  else
    let hadSendLength := proxy.hadSendLength + realSize contents
    ⟨realSize contents, { proxy with hadSendLength := hadSendLength },
      [.writeOrBufferBody contents (hadSendLength == proxy.contentLength)]⟩

/-- `QuicProxyCurl::ReadQuicCallback`: the bytes copied to a buffer of
`bufferSize` bytes, their number being the value returned. -/
def readQuicCallback (proxy : QuicProxyCurl) (bufferSize : UInt64) : Bytes × QuicProxyCurl :=
  let copyThisMuch := .ofNat proxy.requestBody.length - proxy.requestBodyPos
  if 0 < copyThisMuch then
    let copyThisMuch := if bufferSize < copyThisMuch then bufferSize else copyThisMuch
    (proxy.requestBody.substr proxy.requestBodyPos.toNat copyThisMuch.toNat,
      { proxy with requestBodyPos := proxy.requestBodyPos + copyThisMuch })
  else
    ([], proxy)

/-- The lines `StartHttp` appends to the header list; `curl_slist_append` copies
each up to its first NUL byte. -/
def requestHeaderLines (peerIp : Bytes) (requestHeaders : SpdyHeaderBlock) : List Bytes :=
  let fields := requestHeaders.entries.filter fun header => header.1.head? != some 58
  (fields.map fun header => Bytes.cString (header.1 ++ ascii ": " ++ header.2)) ++
    [Bytes.cString (ascii "x-real-ip: " ++ peerIp)]

/-- `QuicProxyCurl::StartHttp`. Without options it has returned before
`curl_multi_add_handle`, the method not being a token. -/
def startHttp (proxy : QuicProxyCurl) (peerIp : Bytes) (requestHeaders : SpdyHeaderBlock)
    (requestBody : Bytes) : QuicProxyCurl × Option EasyOptions :=
  let proxy := { proxy with
    requestHeaderList := proxy.requestHeaderList ++ requestHeaderLines peerIp requestHeaders }
  let method := (requestHeaders.find (ascii ":method")).getD []
  if platform.isValidHeaderName method = false then
    (proxy, none)
  else
    let options : EasyOptions := {
      url := Bytes.cString proxy.requestUrl
      customRequest := Bytes.cString method
      httpHeader := proxy.requestHeaderList
      followLocation := true
      upload := none }
    if (method = ascii "POST" ∨ method = ascii "PUT" ∨ method = ascii "PATCH") ∧
        requestBody ≠ [] then
      ({ proxy with requestBody := requestBody },
        some { options with upload := some requestBody.length })
    else
      (proxy, some options)

end QuicProxyCurl

end QuicProxy
