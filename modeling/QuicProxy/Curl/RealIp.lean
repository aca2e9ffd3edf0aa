import QuicProxy.Curl.RequestHeaders

/-!
# The address the backend is told

`StartHttp` adds a field `x-real-ip` behind the fields of the client, which go out as
lines with whatever bytes their values hold. A backend reads the section line by line up
to its first blank line and compares names without regard to case.
`realIp_isolated_iff` says for which two requests it reads the peer's address alone.
-/

namespace QuicProxy

/-- The text of a peer's address, as `get_peer_ip` gives it. -/
structure PeerAddress where
  text : Bytes
  address : ∀ byte ∈ text, isAddressByte byte

/-- The line spells a field `x-real-ip`, in any letter case. -/
def NamesRealIp (line : Bytes) : Prop :=
  colon ∈ line ∧
    Platform.chromiumToLower (line.takeWhile (· != colon)) = ascii "x-real-ip"

instance (line : Bytes) : Decidable (NamesRealIp line) :=
  inferInstanceAs (Decidable (_ ∧ _))

/-- The address a line tells. -/
def realIpOf (line : Bytes) : Option Bytes :=
  if NamesRealIp line then (readFieldLine line).map Prod.snd else none

/-- The lines a reader finds in the section of a list of lines. -/
def linesRead (lineEnd : LineEnd) (lines : List Bytes) : List Bytes :=
  (linesFrom lineEnd [] (sentSection lines)).takeWhile (· != [])

/-- The addresses a reader is told. -/
def realIps (lineEnd : LineEnd) (lines : List Bytes) : List Bytes :=
  (linesRead lineEnd lines).filterMap realIpOf

/-- The list tells the peer's address alone, and its last line, which the proxy adds, is
what tells it. -/
structure TellsPeer (lineEnd : LineEnd) (lines : List Bytes) (peer : PeerAddress) : Prop where
  told : realIps lineEnd lines = [peer.text]
  byProxy : realIps lineEnd lines.dropLast = []

/-- What two requests from one peer tell the backend is the same, and is the address. -/
def RealIpIsolated (platform : Platform) (lineEnd : LineEnd) (requestUrl : Bytes)
    (streamRef : StreamRef) (peer : PeerAddress) (first second : SpdyHeaderBlock × Bytes) : Prop :=
  let headerList := fun request : SpdyHeaderBlock × Bytes =>
    ((QuicProxyCurl.create requestUrl streamRef).startHttp platform peer.text request.1
      request.2).1.requestHeaderList
  realIps lineEnd (headerList first) = realIps lineEnd (headerList second) ∧
    TellsPeer lineEnd (headerList first) peer ∧ TellsPeer lineEnd (headerList second) peer

/-- The fields of a block that are forwarded. -/
def forwardedFields (headers : SpdyHeaderBlock) : List (Bytes × Bytes) :=
  headers.entries.filter fun header => header.1.head? != some 58

/-- The line `StartHttp` makes of a field. -/
def forwardedLine (header : Bytes × Bytes) : Bytes :=
  Bytes.cString (header.1 ++ ascii ": " ++ header.2)

/-- The line of a field, once it is cut at the line ends in it, has no blank line and no
field `x-real-ip`. -/
def Harmless (lineEnd : LineEnd) (header : Bytes × Bytes) : Prop :=
  ∀ piece ∈ linesFrom lineEnd [] (forwardedLine header), piece ≠ [] ∧ ¬ NamesRealIp piece

/-! ## Reading a list of lines -/

/-- Lines behind a blank one are not read. -/
theorem takeWhile_blank (before after : List Bytes) :
    (before ++ [] :: after).takeWhile (· != []) = before.takeWhile (· != []) := by
  induction before with
  | nil => rfl
  | cons line rest ih =>
      rw [List.cons_append, List.takeWhile_cons, List.takeWhile_cons, ih]

/-- The lines up to the first empty one. -/
theorem linesRead_eq (lineEnd : LineEnd) (lines : List Bytes) :
    linesRead lineEnd lines =
      (lines.flatMap (linesFrom lineEnd [])).takeWhile (· != []) := by
  have blank : linesFrom lineEnd [] crlf = [[], []] :=
    linesFrom_line lineEnd [] [] [] (LineFree.nil lineEnd)
  rw [linesRead, sentSection, linesFrom_flatMap, blank, takeWhile_blank]

/-- Only a line that names the header says something of the peer. -/
theorem realIpOf_eq_none {line : Bytes} : realIpOf line = none ↔ ¬ NamesRealIp line := by
  rw [realIpOf]
  by_cases named : NamesRealIp line
  · rw [if_pos named]
    simp only [named, not_true_eq_false, iff_false, readFieldLine]
    cases stopped : line.dropWhile (· != colon) with
    | nil =>
        have absent := List.dropWhile_eq_nil_iff.mp stopped colon named.1
        simp at absent
    | cons byte value => simp
  · rw [if_neg named]
    simp [named]

/-! ## The proxy's own line -/

/-- The line the proxy adds. -/
def ownLine (peer : PeerAddress) : Bytes := Bytes.cString (ascii "x-real-ip: " ++ peer.text)

/-- The proxy's line is a field line like the others. -/
theorem ownLine_eq (peer : PeerAddress) :
    ownLine peer = fieldLine (ascii "x-real-ip", peer.text) := by
  have noNul : nul ∉ ascii "x-real-ip: " := by decide
  rw [ownLine, cString_append _ noNul]
  rfl

/-- The proxy's line is read as one. -/
theorem linesFrom_ownLine (lineEnd : LineEnd) (peer : PeerAddress) :
    linesFrom lineEnd [] (ownLine peer) = [ownLine peer] := by
  have free := (realIp_readsBack lineEnd peer.address).line
  rw [← ownLine_eq] at free
  exact linesFrom_free lineEnd [] _ free

/-- The bytes of the proxy's line. -/
theorem ownLine_text (peer : PeerAddress) : ownLine peer = ascii "x-real-ip: " ++ peer.text := by
  have noNul : nul ∉ ascii "x-real-ip: " := by decide
  rw [ownLine, cString_append _ noNul, address_cString peer.address]

/-- The proxy's line says the peer's address. -/
theorem realIpOf_ownLine (peer : PeerAddress) : realIpOf (ownLine peer) = some peer.text := by
  have named : NamesRealIp (ownLine peer) := by
    rw [ownLine_text]
    refine ⟨List.mem_append_left _ (by decide), ?_⟩
    have name : (ascii "x-real-ip: " ++ peer.text).takeWhile (· != colon) =
        ascii "x-real-ip" := rfl
    rw [name]
    decide +kernel
  have noColon : colon ∉ ascii "x-real-ip" := by decide
  have read : readFieldLine (ascii "x-real-ip: " ++ peer.text) =
      some (ascii "x-real-ip", trimOws peer.text) :=
    readFieldLine_line (ascii "x-real-ip") peer.text noColon
  rw [realIpOf, if_pos named, ownLine_text, read, Option.map_some,
    (address_trimmed peer.address).trimOws_eq]

/-- The proxy's line does not end the section. -/
theorem ownLine_nonempty (peer : PeerAddress) : ownLine peer ≠ [] := by
  rw [ownLine_text]
  simp [ascii]

/-! ## One request -/

/-- The client's lines tell the address only through the proxy's line exactly when none
of them is blank or tells one. -/
theorem tellsPeer_iff (lineEnd : LineEnd) (lines : List Bytes) (peer : PeerAddress) :
    TellsPeer lineEnd (lines ++ [ownLine peer]) peer ↔
      ∀ piece ∈ lines.flatMap (linesFrom lineEnd []), piece ≠ [] ∧ ¬ NamesRealIp piece := by
  have client : realIps lineEnd (lines ++ [ownLine peer]).dropLast =
      ((lines.flatMap (linesFrom lineEnd [])).takeWhile (· != [])).filterMap realIpOf := by
    rw [List.dropLast_concat, realIps, linesRead_eq]
  have whole : realIps lineEnd (lines ++ [ownLine peer]) =
      ((lines.flatMap (linesFrom lineEnd []) ++ [ownLine peer]).takeWhile (· != [])).filterMap
        realIpOf := by
    rw [realIps, linesRead_eq, List.flatMap_append, List.flatMap_singleton, linesFrom_ownLine]
  generalize lines.flatMap (linesFrom lineEnd []) = pieces at client whole
  constructor
  · rintro ⟨told, byProxy⟩
    rw [client] at byProxy
    rw [whole] at told
    -- a blank piece would hide the proxy's line from the reader
    have noBlank : ∀ piece ∈ pieces, piece ≠ [] := by
      rintro piece member rfl
      obtain ⟨before, after, rfl⟩ := List.append_of_mem member
      rw [List.append_assoc, List.cons_append, takeWhile_blank] at told
      rw [takeWhile_blank, told] at byProxy
      cases byProxy
    have kept : ∀ piece ∈ pieces, (piece != []) = true := by simpa using noBlank
    rw [List.takeWhile_eq_self_iff.mpr kept, List.filterMap_eq_nil_iff] at byProxy
    intro piece member
    exact ⟨noBlank piece member, realIpOf_eq_none.mp (byProxy piece member)⟩
  · intro harmless
    have kept : ∀ piece ∈ pieces, (piece != []) = true := by
      intro piece member
      simpa using (harmless piece member).1
    have silent : pieces.filterMap realIpOf = [] :=
      List.filterMap_eq_nil_iff.mpr fun piece member =>
        realIpOf_eq_none.mpr (harmless piece member).2
    constructor
    · rw [whole, List.takeWhile_append_of_pos kept, List.filterMap_append, silent,
        List.takeWhile_cons, if_pos (by simpa using ownLine_nonempty peer)]
      simp [realIpOf_ownLine]
    · rw [client, List.takeWhile_eq_self_iff.mpr kept, silent]

/-- Two requests tell the backend the peer's address, and nothing else, exactly when no
forwarded line of either has a blank line or a field `x-real-ip` in it. -/
theorem realIp_isolated_iff (platform : Platform) (lineEnd : LineEnd) (requestUrl : Bytes)
    (streamRef : StreamRef) (peer : PeerAddress) (first second : SpdyHeaderBlock × Bytes) :
    RealIpIsolated platform lineEnd requestUrl streamRef peer first second ↔
      (∀ header ∈ forwardedFields first.1, Harmless lineEnd header) ∧
        ∀ header ∈ forwardedFields second.1, Harmless lineEnd header := by
  have one : ∀ request : SpdyHeaderBlock × Bytes,
      TellsPeer lineEnd ((QuicProxyCurl.create requestUrl streamRef).startHttp platform peer.text
        request.1 request.2).1.requestHeaderList peer ↔
          ∀ header ∈ forwardedFields request.1, Harmless lineEnd header := by
    intro request
    have lines : ((QuicProxyCurl.create requestUrl streamRef).startHttp platform peer.text
        request.1 request.2).1.requestHeaderList =
          (forwardedFields request.1).map forwardedLine ++ [ownLine peer] := by
      rw [startHttp_requestHeaderList]
      rfl
    rw [lines, tellsPeer_iff]
    simp only [List.mem_flatMap, List.mem_map, Harmless]
    constructor
    · intro all header member piece inLine
      exact all piece ⟨_, ⟨header, member, rfl⟩, inLine⟩
    · rintro harmless piece ⟨_, ⟨header, member, rfl⟩, inLine⟩
      exact harmless header member piece inLine
  simp only [RealIpIsolated, one]
  constructor
  · exact And.right
  · intro harmless
    have told := ((one first).mpr harmless.1).told
    exact ⟨told.trans ((one second).mpr harmless.2).told.symm, harmless⟩

/-- A plain request. -/
def plainGet : SpdyHeaderBlock := SpdyHeaderBlock.empty.set (ascii ":method") (ascii "GET")

/-- The peer of both requests. -/
def somePeer : PeerAddress := ⟨ascii "198.51.100.4", by decide +kernel⟩

/-- A client that sends the field itself is told before the proxy's line. -/
theorem forged_realIp_precedes :
    realIps .strict ((QuicProxyCurl.create (ascii "http://localhost/") 0).startHttp
        Platform.chromium somePeer.text (plainGet.set (ascii "x-real-ip") (ascii "10.0.0.1"))
        []).1.requestHeaderList = [ascii "10.0.0.1", ascii "198.51.100.4"] ∧
      ¬ ∀ first second : SpdyHeaderBlock × Bytes, RealIpIsolated Platform.chromium .strict
        (ascii "http://localhost/") 0 somePeer first second := by
  have told : realIps .strict ((QuicProxyCurl.create (ascii "http://localhost/") 0).startHttp
      Platform.chromium somePeer.text (plainGet.set (ascii "x-real-ip") (ascii "10.0.0.1"))
      []).1.requestHeaderList = [ascii "10.0.0.1", ascii "198.51.100.4"] := by
    decide +kernel
  refine ⟨told, fun claimed => ?_⟩
  have isolated := (claimed (plainGet.set (ascii "x-real-ip") (ascii "10.0.0.1"), [])
    (plainGet, [])).2.1.told
  simp only at isolated
  rw [told] at isolated
  revert isolated
  decide +kernel

end QuicProxy
