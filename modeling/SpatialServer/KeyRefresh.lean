import SpatialServer.Containers
import SpatialServer.Entities
import SpatialServer.Runs

/-!
# The keys that tokens are verified with

The provider holds the public keys of the last answer of the key server it could
read, and the time of that answer. Past the time to live it verifies nothing. A
refresh reads whatever the server answers: it never looks at the status, so that
an error reply with a readable body takes the place of the keys and counts as
fresh.
-/
namespace SpatialServer

open Runs

/-! ## Unpadded base64 in the URL alphabet -/

namespace RawURLEncoding

/-- The six bits a character stands for. -/
def sextet (c : Char) : Option ℕ :=
  if 'A' ≤ c ∧ c ≤ 'Z' then some (c.toNat - 65)
  else if 'a' ≤ c ∧ c ≤ 'z' then some (c.toNat - 97 + 26)
  else if '0' ≤ c ∧ c ≤ '9' then some (c.toNat - 48 + 52)
  else if c = '-' then some 62
  else if c = '_' then some 63
  else none

/-- Four characters make three bytes. The spare bits of a shorter last group are not
looked at, and a single character left over is an error. -/
def decodeSextets : List ℕ → Option (List UInt8)
  | [] => some []
  | [_] => none
  | [a, b] => some [.ofNat (a * 4 + b / 16)]
  | [a, b, c] => some [.ofNat (a * 4 + b / 16), .ofNat (b % 16 * 16 + c / 4)]
  | a :: b :: c :: d :: rest => (decodeSextets rest).map fun bytes =>
      .ofNat (a * 4 + b / 16) :: .ofNat (b % 16 * 16 + c / 4) :: .ofNat (c % 4 * 64 + d) :: bytes

/-- Line breaks are skipped wherever they stand. -/
def decodeString (s : String) : Option (List UInt8) :=
  ((s.toList.filter fun c => c ≠ '\r' ∧ c ≠ '\n').mapM sextet).bind decodeSextets

end RawURLEncoding

/-- A public key has the size of one. -/
abbrev PublicKey := { x : List UInt8 // x.length = 32 }

/-- A listed key, with the fields that are read. -/
structure Jwk where
  kid : String
  crv : String
  alg : String
  x : String
  deriving DecidableEq, Repr

namespace Jwk

/-- The key, where the entry is a well-formed one for the one algorithm. -/
def publicKey (k : Jwk) : Option PublicKey :=
  if k.alg ≠ "EdDSA" ∨ k.crv ≠ "Ed25519" then none
  else match RawURLEncoding.decodeString k.x with
    | none => none
    | some x => if h : x.length = 32 then some ⟨x, h⟩ else none

/-- One turn of the loop over the listed keys. Others are skipped, and of two with one
name the later one stays. -/
def add (keys : Dict String PublicKey) (k : Jwk) : Dict String PublicKey :=
  match k.publicKey with
  | none => keys
  | some x => keys.set k.kid x

def collect (listed : List Jwk) : Dict String PublicKey := listed.foldl add ∅

/-- The last well-formed key that is listed under the name. -/
def lastListed (kid : String) (listed : List Jwk) : Option PublicKey :=
  listed.reverse.findSome? fun k => if k.kid = kid then k.publicKey else none

theorem get_collect (listed : List Jwk) (kid : String) :
    (collect listed).get kid = lastListed kid listed := by
  induction listed using List.reverseRecOn with
  | nil => rfl
  | append_singleton listed k ih =>
    have hcollect : collect (listed ++ [k]) = add (collect listed) k := List.foldl_append
    have hlast : lastListed kid (listed ++ [k]) =
        (if k.kid = kid then k.publicKey else none).or (lastListed kid listed) := by
      rw [lastListed, List.reverse_append, List.reverse_singleton, List.singleton_append,
        List.findSome?_cons]
      cases (if k.kid = kid then k.publicKey else none) <;> rfl
    rw [hcollect, hlast, add]
    cases k.publicKey with
    | none => simp [ih]
    | some x =>
      by_cases hkid : k.kid = kid
      · subst hkid
        simp
      · simp [hkid, Ne.symm hkid, ih]

end Jwk

/-- What comes of a request: the address is not one, there is no response, or there is
one with a status and a body, which the decoder reads as listed keys or refuses. -/
inductive Exchange where
  | invalid (err : String)
  | failed (err : String)
  | answered (status : ℕ) (body : Except String (List Jwk))

namespace Exchange

/-- The keys that a successful exchange lists. -/
def listing : Exchange → Option (List Jwk)
  | .answered status (.ok listed) => if 200 ≤ status ∧ status < 300 then some listed else none
  | _ => none

end Exchange

/-- A refresh and the time at which it ends. -/
structure Refresh where
  exchange : Exchange
  now : Time

inductive SigningMethod where
  | ed25519
  | other
  deriving DecidableEq, Repr

/-- A token that is to be verified, with the algorithm as its header prints. -/
structure SignedToken where
  method : SigningMethod
  alg : String
  deriving DecidableEq, Repr

structure JWKSProvider where
  ttl : Duration
  keys : Dict String PublicKey
  fetched : Time

namespace JWKSProvider

def new (ttl : Duration) : JWKSProvider := ⟨ttl, ∅, 0⟩

def refresh (p : JWKSProvider) (r : Refresh) : Except String Unit × JWKSProvider :=
  match r.exchange with
  | .invalid err => (.error err, p)
  | .failed err => (.error ("jwks fetch: " ++ err), p)
  | .answered _ (.error err) => (.error ("jwks decode: " ++ err), p)
  | .answered _ (.ok listed) => (.ok (), { p with keys := Jwk.collect listed, fetched := r.now })

/-- The key for a token, asked for at a time. -/
def verifier (p : JWKSProvider) (kid : String) (now : Time) (t : SignedToken) :
    Except String PublicKey :=
  if t.method ≠ .ed25519 then
    .error ("unexpected signing method " ++ t.alg ++ " (EdDSA required)")
  else if now - p.fetched > p.ttl then .error "jwks cache stale past ttl, refusing to verify"
  else match p.keys.get kid with
    | none => .error ("unknown kid " ++ kid)
    | some k => .ok k

def step (p : JWKSProvider) (r : Refresh) : JWKSProvider := (p.refresh r).2

theorem verifier_eq_ok {p : JWKSProvider} {kid : String} {now : Time} {t : SignedToken}
    {key : PublicKey} : p.verifier kid now t = .ok key ↔
      t.method = .ed25519 ∧ now - p.fetched ≤ p.ttl ∧ p.keys.get kid = some key := by
  unfold verifier
  split_ifs with hmethod hstale
  · simp [hmethod]
  · simp [not_le.mpr hstale]
  · have hfresh := not_lt.mp hstale
    cases p.keys.get kid <;> simp_all

/-- A refresh replaces keys and time together, or leaves both. -/
theorem step_cases (p : JWKSProvider) (r : Refresh) :
    (∃ status listed, r.exchange = .answered status (.ok listed) ∧
      p.step r = { p with keys := Jwk.collect listed, fetched := r.now }) ∨
    (∀ status listed, r.exchange ≠ .answered status (.ok listed)) ∧ p.step r = p := by
  rcases hx : r.exchange with err | err | ⟨status, err | listed⟩
  · exact .inr ⟨nofun, by simp only [step, refresh, hx]⟩
  · exact .inr ⟨nofun, by simp only [step, refresh, hx]⟩
  · exact .inr ⟨nofun, by simp only [step, refresh, hx]⟩
  · exact .inl ⟨status, listed, rfl, by simp only [step, refresh, hx]⟩

/-! ## What the verifier is meant to answer -/

/-- The last successful exchange: its time and the keys it listed. -/
def lastGood (history : List Refresh) : Option (Time × List Jwk) :=
  history.reverse.findSome? fun r => r.exchange.listing.map (Prod.mk r.now)

theorem lastGood_append (history : List Refresh) (r : Refresh) :
    lastGood (history ++ [r]) =
      (r.exchange.listing.map (Prod.mk r.now)).or (lastGood history) := by
  rw [lastGood, List.reverse_append, List.reverse_singleton, List.singleton_append,
    List.findSome?_cons]
  cases r.exchange.listing <;> rfl

/-- The key is the last one listed under the name in the last successful exchange, which
is no older than the time to live. -/
def Vouched (ttl : Duration) (history : List Refresh) (kid : String) (now : Time)
    (t : SignedToken) (key : PublicKey) : Prop :=
  t.method = .ed25519 ∧ ∃ fetched listed, lastGood history = some (fetched, listed) ∧
    now - fetched ≤ ttl ∧ Jwk.lastListed kid listed = some key

/-- An exchange that does not succeed changes neither the keys nor their time. -/
def FailureKeeps (p : JWKSProvider) (r : Refresh) : Prop :=
  r.exchange.listing = none →
    (p.step r).keys.get = p.keys.get ∧ (p.step r).fetched = p.fetched

/-- A readable reply has a status of success, or repeats the keys and the time held. -/
def ReadsSuccess (p : JWKSProvider) (r : Refresh) : Prop :=
  ∀ status listed, r.exchange = .answered status (.ok listed) →
    (200 ≤ status ∧ status < 300) ∨
      ((∀ kid, Jwk.lastListed kid listed = p.keys.get kid) ∧ r.now = p.fetched)

theorem failureKeeps_iff (p : JWKSProvider) (r : Refresh) :
    p.FailureKeeps r ↔ p.ReadsSuccess r := by
  unfold FailureKeeps ReadsSuccess
  obtain ⟨status, listed, hx, hstep⟩ | ⟨hx, hstep⟩ := step_cases p r
  · have hkeys : (Jwk.collect listed).get = p.keys.get ↔
        ∀ kid, Jwk.lastListed kid listed = p.keys.get kid := by
      simp only [funext_iff, Jwk.get_collect]
    rw [hstep, hx]
    by_cases hstatus : 200 ≤ status ∧ status < 300
    · simp [Exchange.listing, hstatus]
    · simp [Exchange.listing, hstatus, hkeys]
  · refine iff_of_true (fun _ => by rw [hstep]; exact ⟨rfl, rfl⟩) ?_
    exact fun status listed h => absurd h (hx status listed)

/-- The provider holds what the last successful exchange listed. -/
structure Holds (p : JWKSProvider) (ttl : Duration) (history : List Refresh) : Prop where
  ttl : p.ttl = ttl
  keys : ∀ kid, p.keys.get kid = (lastGood history).bind fun good => Jwk.lastListed kid good.2
  fetched : ∀ good, lastGood history = some good → p.fetched = good.1

theorem Holds.step {p : JWKSProvider} {ttl : Duration} {history : List Refresh} {r : Refresh}
    (h : p.Holds ttl history) (hr : p.ReadsSuccess r) : (p.step r).Holds ttl (history ++ [r]) := by
  have hlast := lastGood_append history r
  -- a step that changes nothing and is no success
  have hsame : r.exchange.listing = none → (p.step r).keys.get = p.keys.get →
      (p.step r).fetched = p.fetched → (p.step r).ttl = p.ttl →
      (p.step r).Holds ttl (history ++ [r]) := by
    intro hnone hkeys hfetched httl
    rw [hnone] at hlast
    exact ⟨httl.trans h.ttl, fun kid => by rw [hkeys, hlast]; exact h.keys kid,
      fun good hgood => hfetched.trans (h.fetched good (hlast.symm.trans hgood))⟩
  obtain ⟨status, listed, hx, hstep⟩ | ⟨hx, hstep⟩ := step_cases p r
  · by_cases hstatus : 200 ≤ status ∧ status < 300
    · have hlisting : r.exchange.listing = some listed := by simp [hx, Exchange.listing, hstatus]
      rw [hlisting] at hlast
      rw [hstep]
      refine ⟨h.ttl, fun kid => ?_, fun good hgood => ?_⟩
      · rw [hlast]
        exact Jwk.get_collect listed kid
      · rw [hlast] at hgood
        cases hgood
        rfl
    · have hlisting : r.exchange.listing = none := by simp [hx, Exchange.listing, hstatus]
      obtain ⟨hkeys, hfetched⟩ := (failureKeeps_iff p r).mpr hr hlisting
      exact hsame hlisting hkeys hfetched (by rw [hstep])
  · have hlisting : r.exchange.listing = none := by
      rcases hcase : r.exchange with err | err | ⟨status, err | listed⟩
      · rfl
      · rfl
      · rfl
      · exact absurd hcase (hx status listed)
    exact hsame hlisting (by rw [hstep]) (by rw [hstep]) (by rw [hstep])

theorem holds_exec {ttl : Duration} {history : List Refresh}
    (h : Along step ReadsSuccess (new ttl) history) :
    (exec step (new ttl) history).Holds ttl history := by
  induction history using List.reverseRecOn with
  | nil => exact ⟨rfl, fun _ => rfl, fun _ hgood => by cases hgood⟩
  | append_singleton history r ih =>
    rw [along_append] at h
    rw [exec_append]
    exact (ih h.1).step h.2.1

theorem Holds.verifier_iff {p : JWKSProvider} {ttl : Duration} {history : List Refresh}
    (h : p.Holds ttl history) (kid : String) (now : Time) (t : SignedToken) (key : PublicKey) :
    p.verifier kid now t = .ok key ↔ Vouched ttl history kid now t key := by
  rw [verifier_eq_ok, h.ttl, h.keys, Vouched]
  refine and_congr_right fun _ => ?_
  cases hgood : lastGood history with
  | none => simp
  | some good =>
    rw [h.fetched good hgood]
    constructor
    · rintro ⟨hfresh, hkey⟩
      exact ⟨good.1, good.2, rfl, hfresh, hkey⟩
    · rintro ⟨fetched, listed, heq, hfresh, hkey⟩
      cases heq
      exact ⟨hfresh, hkey⟩

/-- Over every sequence of refreshes, the verifier answers from the last successful
exchange and failed ones change nothing, exactly if every reply that could be read had
a status of success or repeated what was held. -/
theorem keys_of_last_success_iff (ttl : Duration) (history : List Refresh) :
    ((∀ part, part <+: history → ∀ kid now t key,
        (exec step (new ttl) part).verifier kid now t = .ok key ↔
          Vouched ttl part kid now t key) ∧
      Along step FailureKeeps (new ttl) history) ↔
    Along step ReadsSuccess (new ttl) history := by
  constructor
  · rintro ⟨-, h⟩
    exact h.mono fun p r => (failureKeeps_iff p r).mp
  · intro h
    refine ⟨?_, h.mono fun p r => (failureKeeps_iff p r).mpr⟩
    rintro part ⟨rest, rfl⟩ kid now t key
    exact (holds_exec ((along_append _ _ _).mp h).1).verifier_iff kid now t key

/-- Thirty-two zero bytes. -/
def zeroKey : Jwk := ⟨"k1", "Ed25519", "EdDSA", "AAAAAAAAAAAAAAAAAAAAAAAAAAAAAAAAAAAAAAAAAAA"⟩

/-- Ten seconds after the keys were fetched the key server answers with an internal error
and an empty object. The key is gone, and what is left counts as fresh. -/
theorem error_reply_empties_keys :
    let good : Refresh := ⟨.answered 200 (.ok [zeroKey]), 100 * second⟩
    let bad : Refresh := ⟨.answered 500 (.ok []), 110 * second⟩
    let token : SignedToken := ⟨.ed25519, "EdDSA"⟩
    let p := exec step (new (60 * second)) [good, bad]
    Vouched (60 * second) [good, bad] "k1" (120 * second) token
        ⟨List.replicate 32 0, List.length_replicate⟩ ∧
      p.verifier "k1" (120 * second) token = .error "unknown kid k1" ∧
      p.fetched = 110 * second ∧ ¬Along step ReadsSuccess (new (60 * second)) [good, bad] := by
  intro good bad token p
  refine ⟨⟨rfl, 100 * second, [zeroKey], rfl, by decide, by decide +kernel⟩, ?_, ?_, ?_⟩
  · decide +kernel
  · decide +kernel
  · rintro ⟨-, hbad, -⟩
    obtain ⟨-, h⟩ | ⟨-, h⟩ := hbad 500 [] rfl
    · exact absurd h (by decide)
    · exact absurd h (by decide +kernel)

end JWKSProvider

end SpatialServer
