import QuicProxy.Std.Bytes
import Mathlib.Data.List.Basic

/-!
# Where a URL leads

The scheme and the authority of a URL decide which server a request goes to.
`readTarget_url` reads them back from a URL that has both and a slash behind them,
whatever follows.
-/

namespace QuicProxy

/-- Scheme and authority; a URL without a scheme leaves it to be guessed. -/
structure UrlTarget where
  scheme : Option Bytes
  authority : Bytes
deriving DecidableEq

/-- `ALPHA / DIGIT / "+" / "-" / "."` -/
def isSchemeByte (byte : UInt8) : Bool :=
  (97 ≤ byte && byte ≤ 122) || (65 ≤ byte && byte ≤ 90) || (48 ≤ byte && byte ≤ 57) ||
    byte == 43 || byte == 45 || byte == 46

/-- `/`, `?` and `#` end the authority. -/
def endsAuthority (byte : UInt8) : Bool := byte == 47 || byte == 63 || byte == 35

/-- The authority at the front of a text. -/
def readAuthority (text : Bytes) : Bytes := text.takeWhile fun byte => !endsAuthority byte

/-- Scheme and authority of a URL. -/
def readTarget (url : Bytes) : UrlTarget :=
  let behind := url.dropWhile isSchemeByte
  if ascii "://" <+: behind then
    ⟨some (url.takeWhile isSchemeByte), readAuthority (behind.drop 3)⟩
  else ⟨none, readAuthority url⟩

/-- A scheme ends at the colon. -/
theorem scheme_split {scheme : Bytes} (schemeBytes : ∀ byte ∈ scheme, isSchemeByte byte = true)
    (rest : Bytes) :
    (scheme ++ ascii "://" ++ rest).takeWhile isSchemeByte = scheme ∧
      (scheme ++ ascii "://" ++ rest).dropWhile isSchemeByte = ascii "://" ++ rest := by
  have stops : (ascii "://" ++ rest).takeWhile isSchemeByte = [] := rfl
  have stays : (ascii "://" ++ rest).dropWhile isSchemeByte = ascii "://" ++ rest := rfl
  rw [List.append_assoc, List.takeWhile_append_of_pos schemeBytes,
    List.dropWhile_append_of_pos schemeBytes, stops, stays, List.append_nil]
  exact ⟨rfl, rfl⟩

/-- An authority ends at the slash. -/
theorem readAuthority_slash {authority : Bytes}
    (inside : ∀ byte ∈ authority, endsAuthority byte = false) (rest : Bytes) :
    readAuthority (authority ++ ascii "/" ++ rest) = authority := by
  have plain : ∀ byte ∈ authority, (!endsAuthority byte) = true := by
    intro byte member
    rw [inside byte member]
    rfl
  have stops : (ascii "/" ++ rest).takeWhile (fun byte => !endsAuthority byte) = [] := rfl
  rw [readAuthority, List.append_assoc, List.takeWhile_append_of_pos plain, stops,
    List.append_nil]

/-- A URL is split behind its scheme and before its path. -/
theorem readTarget_url {scheme authority : Bytes}
    (schemeBytes : ∀ byte ∈ scheme, isSchemeByte byte = true)
    (inside : ∀ byte ∈ authority, endsAuthority byte = false) (rest : Bytes) :
    readTarget (scheme ++ ascii "://" ++ (authority ++ ascii "/" ++ rest)) =
      ⟨some scheme, authority⟩ := by
  obtain ⟨taken, behind⟩ := scheme_split schemeBytes (authority ++ ascii "/" ++ rest)
  have three : (ascii "://").length = 3 := rfl
  rw [readTarget, taken, behind, if_pos (List.prefix_append _ _), ← three, List.drop_left,
    readAuthority_slash inside]

example : readTarget (ascii "http://localhost:80/a?b") =
    ⟨some (ascii "http"), ascii "localhost:80"⟩ := by
  decide +kernel

end QuicProxy
