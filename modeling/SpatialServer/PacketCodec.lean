import SpatialServer.Wire

/-!
# The packet codec

The sender writes the same eight-byte header that the receiver reads, and
decides for every packet whether its body is compressed: only on request, only
above a size, and only where it helps. Compression is a parameter here as
decompression is for the receiver; a writer that cannot be made is `none`.
-/
namespace SpatialServer.Wire

def headerSize : ℕ := 8
def compressMinSize : ℕ := 128

def putUint16 (v : UInt16) : Bytes := [(v >>> 8).toUInt8, v.toUInt8]

def putUint32 (v : UInt32) : Bytes :=
  [(v >>> 24).toUInt8, (v >>> 16).toUInt8, (v >>> 8).toUInt8, v.toUInt8]

/-- The bytes that follow the header, and whether they are compressed. -/
def encodeBody (gzip : Bytes → Option Bytes) (payload : Bytes) (compress : Bool) : Bytes × Bool :=
  if compress ∧ compressMinSize < payload.length then
    match gzip payload with
    | some data => if data.length < payload.length then (data, true) else (payload, false)
    | none => (payload, false)
  else (payload, false)

def encode (gzip : Bytes → Option Bytes) (id : UInt16) (payload : Bytes) (compress : Bool)
    (seq : UInt32) : Bytes :=
  let body := encodeBody gzip payload compress
  let flags : UInt8 := if body.2 then compressionFlag else 0
  protocolVersionV1 :: putUint16 id ++ flags :: putUint32 seq ++ body.1

/-! ## The two integers of the header -/

theorem uint16_bytes (v : UInt16) : (v >>> 8).toUInt8.toNat * 256 + v.toUInt8.toNat = v.toNat := by
  have hlt := v.toNat_lt
  simp only [UInt16.toNat_toUInt8, UInt16.toNat_shiftRight, Nat.shiftRight_eq_div_pow]
  change v.toNat / 2 ^ 8 % 2 ^ 8 * 256 + v.toNat % 2 ^ 8 = v.toNat
  omega

theorem uint32_bytes (v : UInt32) :
    (((v >>> 24).toUInt8.toNat * 256 + (v >>> 16).toUInt8.toNat) * 256 +
      (v >>> 8).toUInt8.toNat) * 256 + v.toUInt8.toNat = v.toNat := by
  have hlt := v.toNat_lt
  simp only [UInt32.toNat_toUInt8, UInt32.toNat_shiftRight, Nat.shiftRight_eq_div_pow]
  change ((v.toNat / 2 ^ 24 % 2 ^ 8 * 256 + v.toNat / 2 ^ 16 % 2 ^ 8) * 256 +
    v.toNat / 2 ^ 8 % 2 ^ 8) * 256 + v.toNat % 2 ^ 8 = v.toNat
  omega

/-- Any two bytes are those of one integer. -/
theorem exists_putUint16 (b₁ b₀ : UInt8) :
    ∃ v : UInt16, v.toNat = b₁.toNat * 256 + b₀.toNat ∧ putUint16 v = [b₁, b₀] := by
  have h₁ := b₁.toNat_lt
  have h₀ := b₀.toNat_lt
  obtain ⟨n, hn⟩ : ∃ n, n = b₁.toNat * 256 + b₀.toNat := ⟨_, rfl⟩
  have hv : (UInt16.ofNat n).toNat = n := UInt16.toNat_ofNat_of_lt' (by change _ < 65536; omega)
  refine ⟨UInt16.ofNat n, hv.trans hn, ?_⟩
  have hbytes := uint16_bytes (UInt16.ofNat n)
  have hlt₁ := (UInt16.ofNat n >>> 8).toUInt8.toNat_lt
  have hlt₀ := (UInt16.ofNat n).toUInt8.toNat_lt
  rw [hv] at hbytes
  simp only [putUint16, List.cons.injEq, and_true]
  constructor <;> apply UInt8.toNat_inj.mp <;> omega

theorem exists_putUint32 (b₃ b₂ b₁ b₀ : UInt8) :
    ∃ v : UInt32, v.toNat = ((b₃.toNat * 256 + b₂.toNat) * 256 + b₁.toNat) * 256 + b₀.toNat ∧
      putUint32 v = [b₃, b₂, b₁, b₀] := by
  have h₃ := b₃.toNat_lt
  have h₂ := b₂.toNat_lt
  have h₁ := b₁.toNat_lt
  have h₀ := b₀.toNat_lt
  obtain ⟨n, hn⟩ : ∃ n, n = ((b₃.toNat * 256 + b₂.toNat) * 256 + b₁.toNat) * 256 + b₀.toNat :=
    ⟨_, rfl⟩
  have hv : (UInt32.ofNat n).toNat = n :=
    UInt32.toNat_ofNat_of_lt' (by change _ < 4294967296; omega)
  refine ⟨UInt32.ofNat n, hv.trans hn, ?_⟩
  have hbytes := uint32_bytes (UInt32.ofNat n)
  have hlt₃ := (UInt32.ofNat n >>> 24).toUInt8.toNat_lt
  have hlt₂ := (UInt32.ofNat n >>> 16).toUInt8.toNat_lt
  have hlt₁ := (UInt32.ofNat n >>> 8).toUInt8.toNat_lt
  have hlt₀ := (UInt32.ofNat n).toUInt8.toNat_lt
  rw [hv] at hbytes
  simp only [putUint32, List.cons.injEq, and_true]
  refine ⟨?_, ?_, ?_, ?_⟩ <;> apply UInt8.toNat_inj.mp <;> omega

/-! ## Encoding and then decoding -/

/-- A compressed body is one that the compressor made of the payload. -/
theorem encodeBody_cases (gzip : Bytes → Option Bytes) (payload : Bytes) (compress : Bool) :
    encodeBody gzip payload compress = (payload, false) ∨
      ∃ data, gzip payload = some data ∧ encodeBody gzip payload compress = (data, true) := by
  unfold encodeBody
  split
  · split
    · next data hdata =>
      split
      · exact .inr ⟨data, hdata, rfl⟩
      · exact .inl rfl
    · exact .inl rfl
  · exact .inl rfl

/-- The byte with the flags says whether the body is compressed. -/
theorem flags_encode (gzip : Bytes → Option Bytes) (id : UInt16) (payload : Bytes)
    (compress : Bool) (seq : UInt32) :
    (encode gzip id payload compress seq)[3]? =
      some (if (encodeBody gzip payload compress).2 then compressionFlag else 0) := rfl

theorem decode_encode {c : Codec} {gzip : Bytes → Option Bytes}
    (hgzip : ∀ x y, gzip x = some y → c.gunzip y = .ok x) (id : UInt16) (payload : Bytes)
    (compress : Bool) (seq : UInt32) :
    decode c (encode gzip id payload compress seq) =
      .ok ⟨protocolVersionV1, id.toNat, payload, (encodeBody gzip payload compress).2, seq.toNat⟩ := by
  rcases encodeBody_cases gzip payload compress with hraw | ⟨data, hdata, hzip⟩
  · simp only [encode, hraw, putUint16, putUint32, List.cons_append, List.nil_append, decode,
      ne_eq, not_true_eq_false, if_false, Bool.false_eq_true, UInt8.zero_and, uint16_bytes,
      uint32_bytes]
  · have hflag : compressionFlag &&& compressionFlag ≠ 0 := by decide
    simp only [encode, hzip, putUint16, putUint32, List.cons_append, List.nil_append, decode,
      ne_eq, not_true_eq_false, if_false, if_true, hflag, not_false_eq_true, hgzip _ _ hdata,
      uint16_bytes, uint32_bytes]

/-! ## What is accepted -/

theorem exists_decode_eq_ok_iff (c : Codec) (p : Bytes) :
    (∃ d, decode c p = .ok d) ↔
      headerSize ≤ p.length ∧ p[0]? = some protocolVersionV1 ∧
        ((∃ flags, p[3]? = some flags ∧ flags &&& compressionFlag = 0) ∨
          ∃ plain, c.gunzip (p.drop headerSize) = .ok plain) := by
  unfold decode
  split
  · next version i1 i0 flags s3 s2 s1 s0 data =>
    simp only [headerSize, List.length_cons, List.getElem?_cons_zero, List.getElem?_cons_succ,
      List.drop_succ_cons, List.drop_zero, Option.some.injEq, exists_eq_left']
    by_cases hversion : version = protocolVersionV1
    · by_cases hflag : flags &&& compressionFlag = 0
      · simp [hversion, hflag]
      · rcases hzip : c.gunzip data with (_ | _) | plain <;> simp [hversion, hflag]
    · simp [hversion]
  · next hshort =>
    constructor
    · rintro ⟨d, hd⟩
      cases hd
    · rintro ⟨hlen, -⟩
      -- eight bytes are a header, which this branch excludes
      match p, hlen, hshort with
      | v :: i1 :: i0 :: f :: s3 :: s2 :: s1 :: s0 :: data, _, hshort =>
        exact absurd rfl (hshort v i1 i0 f s3 s2 s1 s0 data)

/-- An accepted packet without flags is the raw encoding of what it decodes to. -/
theorem encode_of_decode {c : Codec} (gzip : Bytes → Option Bytes) {p : Bytes} {d : Decoded}
    (hd : decode c p = .ok d) (hflags : p[3]? = some 0) :
    ∃ (id : UInt16) (seq : UInt32), id.toNat = d.id ∧ seq.toNat = d.seq ∧
      encode gzip id d.payload false seq = p := by
  unfold decode at hd
  split at hd
  · next version i1 i0 flags s3 s2 s1 s0 data =>
    obtain rfl : flags = 0 := by simpa using hflags
    by_cases hversion : version = protocolVersionV1
    · simp only [hversion, ne_eq, not_true_eq_false, if_false, UInt8.zero_and,
        Except.ok.injEq] at hd
      obtain ⟨id, hid, hidBytes⟩ := exists_putUint16 i1 i0
      obtain ⟨seq, hseq, hseqBytes⟩ := exists_putUint32 s3 s2 s1 s0
      refine ⟨id, seq, by rw [hid, ← hd], by rw [hseq, ← hd], ?_⟩
      simp [encode, encodeBody, hidBytes, hseqBytes, ← hd, hversion]
    · simp [hversion] at hd
  · cases hd

/-- Whatever is encoded decodes to itself, with the flag saying how it was
encoded; what is accepted is a header of the right version with a readable
body; and accepted packets without flags are their own encodings. -/
theorem packet_codec (c : Codec) (gzip : Bytes → Option Bytes)
    (hgzip : ∀ x y, gzip x = some y → c.gunzip y = .ok x) :
    (∀ (id : UInt16) (payload : Bytes) (compress : Bool) (seq : UInt32), ∃ flags compressed,
      (encode gzip id payload compress seq)[3]? = some flags ∧
      decode c (encode gzip id payload compress seq) =
        .ok ⟨protocolVersionV1, id.toNat, payload, compressed, seq.toNat⟩ ∧
      (compressed = true ↔ flags &&& compressionFlag ≠ 0)) ∧
    (∀ p : Bytes, (∃ d, decode c p = .ok d) ↔
      headerSize ≤ p.length ∧ p[0]? = some protocolVersionV1 ∧
        ((∃ flags, p[3]? = some flags ∧ flags &&& compressionFlag = 0) ∨
          ∃ plain, c.gunzip (p.drop headerSize) = .ok plain)) ∧
    (∀ (p : Bytes) (d : Decoded), decode c p = .ok d → p[3]? = some 0 →
      ∃ (id : UInt16) (seq : UInt32), id.toNat = d.id ∧ seq.toNat = d.seq ∧
        encode gzip id d.payload false seq = p) := by
  refine ⟨fun id payload compress seq => ?_, exists_decode_eq_ok_iff c,
    fun p d hd hflags => encode_of_decode gzip hd hflags⟩
  refine ⟨_, _, flags_encode gzip id payload compress seq,
    decode_encode hgzip id payload compress seq, ?_⟩
  cases (encodeBody gzip payload compress).2 <;> decide

/-- A compressor that knows one long payload, and the decompressor for it. -/
def knownGzip (known payload : Bytes) : Option Bytes :=
  some (if payload = known then [] else 0 :: payload)

def knownGunzip (known : Bytes) : Bytes → Except GunzipError Bytes
  | [] => .ok known
  | _ :: payload => .ok payload

theorem knownGunzip_knownGzip (known x y : Bytes) (h : knownGzip known x = some y) :
    knownGunzip known y = .ok x := by
  obtain rfl := Option.some.inj h
  split_ifs with hx
  · rw [hx]; rfl
  · rfl

theorem packet_codec_known :
    let zeros : Bytes := List.replicate 200 0
    let c : Codec := ⟨knownGunzip zeros, fun _ => none, fun _ => none, fun _ => none⟩
    decode c (encode (knownGzip zeros) 3 zeros true 70000) = .ok ⟨1, 3, zeros, true, 70000⟩ := by
  intro zeros c
  have hgzip := knownGunzip_knownGzip zeros
  obtain ⟨flags, compressed, hflags, hdec, hiff⟩ :=
    (packet_codec c (knownGzip zeros) hgzip).1 3 zeros true 70000
  have hset : (encode (knownGzip zeros) 3 zeros true 70000)[3]? = some compressionFlag := by
    decide +kernel
  obtain rfl : flags = compressionFlag := Option.some.inj (hflags.symm.trans hset)
  obtain rfl : compressed = true := hiff.mpr (by decide)
  exact hdec

end SpatialServer.Wire
