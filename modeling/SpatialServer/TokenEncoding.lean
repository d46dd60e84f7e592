import SpatialServer.KeyRefresh
import SpatialServer.SessionTokens

/-!
# The text of session tokens

A session token is 32 random bytes, written in unpadded base64 with the URL alphabet.
The text gives the bytes back, so that two draws make the same token, and the same key
of the session store, only if they are the same draw.
-/
namespace SpatialServer

namespace RawURLEncoding

def encodeURL : List Char :=
  "ABCDEFGHIJKLMNOPQRSTUVWXYZabcdefghijklmnopqrstuvwxyz0123456789-_".toList

def digit (n : ℕ) : Char := encodeURL.getD n 'A'

/-- Three bytes make four digits. A last group of one or two bytes makes two or three,
with zeros for the bits that are missing. -/
def encodeSextets : List UInt8 → List ℕ
  | [] => []
  | [a] => [a.toNat / 4, a.toNat % 4 * 16]
  | [a, b] => [a.toNat / 4, a.toNat % 4 * 16 + b.toNat / 16, b.toNat % 16 * 4]
  | a :: b :: c :: rest => a.toNat / 4 :: (a.toNat % 4 * 16 + b.toNat / 16) ::
      (b.toNat % 16 * 4 + c.toNat / 64) :: c.toNat % 64 :: encodeSextets rest

def encodeToString (bytes : List UInt8) : String := .ofList ((encodeSextets bytes).map digit)

/-- The decoder reads what a digit stands for, and skips none. -/
theorem sextet_digit : ∀ n < 64,
    sextet (digit n) = some n ∧ digit n ≠ '\r' ∧ digit n ≠ '\n' ∧ digit n ∈ encodeURL := by
  decide +kernel

theorem lt_of_mem_encodeSextets {bytes : List UInt8} {n : ℕ} (h : n ∈ encodeSextets bytes) :
    n < 64 := by
  fun_induction encodeSextets bytes with
  | case1 => cases h
  | case2 a =>
    have := a.toNat_lt
    simp only [List.mem_cons, List.not_mem_nil, or_false] at h
    omega
  | case3 a b =>
    have := a.toNat_lt
    have := b.toNat_lt
    simp only [List.mem_cons, List.not_mem_nil, or_false] at h
    omega
  | case4 a b c rest ih =>
    have := a.toNat_lt
    have := b.toNat_lt
    have := c.toNat_lt
    simp only [List.mem_cons] at h
    rcases h with h | h | h | h | h
    · omega
    · omega
    · omega
    · omega
    · exact ih h

theorem ofNat_eq {a : UInt8} {n : ℕ} (h : n = a.toNat) : UInt8.ofNat n = a := by
  rw [h, UInt8.ofNat_toNat]

theorem decodeSextets_encodeSextets (bytes : List UInt8) :
    decodeSextets (encodeSextets bytes) = some bytes := by
  fun_induction encodeSextets bytes with
  | case1 => rfl
  | case2 a =>
    have := a.toNat_lt
    rw [decodeSextets, ofNat_eq (a := a) (by omega)]
  | case3 a b =>
    have := a.toNat_lt
    have := b.toNat_lt
    rw [decodeSextets, ofNat_eq (a := a) (by omega), ofNat_eq (a := b) (by omega)]
  | case4 a b c rest ih =>
    have := a.toNat_lt
    have := b.toNat_lt
    have := c.toNat_lt
    rw [decodeSextets, ih, ofNat_eq (a := a) (by omega), ofNat_eq (a := b) (by omega),
      ofNat_eq (a := c) (by omega)]
    rfl

theorem length_encodeSextets (bytes : List UInt8) :
    (encodeSextets bytes).length = (4 * bytes.length + 2) / 3 := by
  fun_induction encodeSextets bytes with
  | case1 => rfl
  | case2 a => simp
  | case3 a b => simp
  | case4 a b c rest ih =>
    simp only [List.length_cons, ih]
    omega

theorem toList_encodeToString (bytes : List UInt8) :
    (encodeToString bytes).toList = (encodeSextets bytes).map digit := by
  simp [encodeToString]

theorem mapM_sextet_digit {ns : List ℕ} (h : ∀ n ∈ ns, n < 64) :
    (ns.map digit).mapM sextet = some ns := by
  induction ns with
  | nil => rfl
  | cons n ns ih =>
    rw [List.map_cons, List.mapM_cons, (sextet_digit n (h n List.mem_cons_self)).1,
      ih fun m hm => h m (List.mem_cons_of_mem _ hm)]
    rfl

theorem decodeString_encodeToString (bytes : List UInt8) :
    decodeString (encodeToString bytes) = some bytes := by
  have hkept : ((encodeSextets bytes).map digit).filter (fun c => c ≠ '\r' ∧ c ≠ '\n') =
      (encodeSextets bytes).map digit := by
    refine List.filter_eq_self.mpr fun c hc => ?_
    obtain ⟨n, hn, rfl⟩ := List.mem_map.mp hc
    obtain ⟨-, hcr, hlf, -⟩ := sextet_digit n (lt_of_mem_encodeSextets hn)
    simp [hcr, hlf]
  rw [decodeString, toList_encodeToString, hkept,
    mapM_sextet_digit fun n hn => lt_of_mem_encodeSextets hn]
  exact decodeSextets_encodeSextets bytes

end RawURLEncoding

open RawURLEncoding Gateway.RedisSessionStore

/-- What a read of the random source may come to. -/
abbrev RandomRead := Except String { bytes : List UInt8 // bytes.length = 32 }

def generateToken : RandomRead → Except String String
  | .error err => .error ("generate token: " ++ err)
  | .ok bytes => .ok (encodeToString bytes.1)

/-- A token is 43 characters of the URL alphabet that decode to the bytes of the draw,
and two draws make the same session key only if they are the same. -/
theorem generated_tokens_identify_draws {draw draw' : RandomRead} {token token' : String}
    (h : generateToken draw = .ok token) (h' : generateToken draw' = .ok token') :
    (∃ bytes, draw = .ok bytes ∧ decodeString token = some bytes.1) ∧
      token.length = 43 ∧ (∀ c ∈ token.toList, c ∈ encodeURL) ∧
      (sessionKey token = sessionKey token' → draw = draw') := by
  rcases draw with err | bytes
  · cases h
  rcases draw' with err | bytes'
  · cases h'
  cases h
  cases h'
  refine ⟨⟨bytes, rfl, decodeString_encodeToString bytes.1⟩, ?_, fun c hc => ?_, fun hkey => ?_⟩
  · rw [← String.length_toList, toList_encodeToString, List.length_map, length_encodeSextets,
      bytes.2]
  · rw [toList_encodeToString] at hc
    obtain ⟨n, hn, rfl⟩ := List.mem_map.mp hc
    exact (sextet_digit n (lt_of_mem_encodeSextets hn)).2.2.2
  · have htoken := (String.append_right_inj "session:").mp hkey
    have hbytes := congrArg decodeString htoken
    rw [decodeString_encodeToString, decodeString_encodeToString] at hbytes
    rw [Subtype.ext (Option.some.inj hbytes)]

/-- The token of 32 zeros. -/
theorem zero_token_identifies_draw :
    (generateToken (.ok ⟨List.replicate 32 0, rfl⟩)).toOption.map String.length = some 43 ∧
      ∀ draw token, generateToken draw = .ok token →
        sessionKey token = sessionKey (encodeToString (List.replicate 32 0)) →
          draw = .ok ⟨List.replicate 32 0, rfl⟩ :=
  ⟨by decide +kernel, fun _ _ h hkey => (generated_tokens_identify_draws h rfl).2.2.2 hkey⟩

end SpatialServer
