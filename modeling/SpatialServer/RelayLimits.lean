import SpatialServer.RateLimit
import SpatialServer.Runs

/-!
# The read loops of the gateway

Every relayed connection has a goroutine that reads messages, charges the
bucket of the connection and then a shared bucket, and forwards what both let
through. The shared bucket is meant to be that of the source address, but the
key under which the relay charges it is the client identifier.

The goroutines run side by side: between the two charges of one message
anything may happen. The clock is shared and never goes back.
-/
namespace SpatialServer.Gateway

open Runs

structure Connection where
  /-- Where the request came from. Nothing in the gateway reads it. -/
  address : String
  clientID : String
  limiter : TokenBucket
  /-- A message has passed the bucket of the connection and not yet the shared one. -/
  passed : Bool

/-- The key that `relayWS` hands to the shared limiter. -/
def Connection.ip (c : Connection) : String := c.clientID

structure Relays where
  clock : Time
  conns : Dict ℕ Connection
  ipLimiter : IPLimiter
  /-- The source address of every forwarded message, and when it was let through. -/
  forwarded : List (String × Time)

inductive RelayMove where
  | relayWS (n : ℕ) (address clientID : String) (now : Time)
  | read (n : ℕ) (now : Time)
  | charge (n : ℕ) (created now : Time) (sent : Bool)
  | stop (n : ℕ)

namespace Relays

def new (now : Time) : Relays := ⟨now, ∅, .new 500 500, []⟩

/-- A relay starts reading, with a full bucket of its own. -/
def relayWS (σ : Relays) (n : ℕ) (address clientID : String) (now : Time) : Relays :=
  match σ.conns.get n with
  | some _ => σ
  | none => { σ with conns := σ.conns.set n ⟨address, clientID, .new 100 100 now, false⟩ }

/-- A message arrives. One that the bucket of the connection refuses is dropped. -/
def read (σ : Relays) (n : ℕ) (now : Time) : Relays :=
  match σ.conns.get n with
  | none => σ
  | some c =>
    if c.passed then σ
    else
      let r := c.limiter.allow now
      { σ with conns := σ.conns.set n { c with limiter := r.2, passed := r.1 } }

/-- The message is charged to the shared limiter and forwarded. If sending
fails the relay ends. -/
def charge (σ : Relays) (n : ℕ) (created now : Time) (sent : Bool) : Relays :=
  match σ.conns.get n with
  | none => σ
  | some c =>
    if c.passed then
      let r := σ.ipLimiter.allow c.ip created now
      { σ with
        ipLimiter := r.2
        conns := if r.1 ∧ ¬sent then σ.conns.del n else σ.conns.set n { c with passed := false }
        forwarded := if r.1 ∧ sent then (c.address, now) :: σ.forwarded else σ.forwarded }
    else σ

def step (σ : Relays) : RelayMove → Relays
  | .relayWS n address clientID now => { σ.relayWS n address clientID now with clock := now }
  | .read n now => { σ.read n now with clock := now }
  | .charge n created now sent => { σ.charge n created now sent with clock := now }
  | .stop n => { σ with conns := σ.conns.del n }

/-- The clock does not go back. -/
def Ticks (σ : Relays) : RelayMove → Prop
  | .relayWS _ _ _ now | .read _ now => σ.clock ≤ now
  | .charge _ created now _ => σ.clock ≤ created ∧ created ≤ now
  | .stop _ => True

instance (σ : Relays) (m : RelayMove) : Decidable (σ.Ticks m) := by
  cases m <;> unfold Ticks <;> infer_instance

/-- The message was forwarded for the address, from `start` to `stop`. -/
def inWindow (address : String) (start stop : Time) (f : String × Time) : Bool :=
  decide (f.1 = address ∧ start ≤ f.2 ∧ f.2 ≤ stop)

def forwardedIn (σ : Relays) (address : String) (start stop : Time) : ℕ :=
  σ.forwarded.countP (inWindow address start stop)

end Relays

/-- All connections from the address are those of one client. -/
def RelayMove.OneClient (address client : String) : RelayMove → Prop
  | .relayWS _ source id _ => source = address → id = client
  | _ => True

instance (address client : String) (m : RelayMove) : Decidable (m.OneClient address client) := by
  cases m <;> unfold RelayMove.OneClient <;> infer_instance

namespace Relays

/-! ## One shared bucket bounds a window -/

/-- As long as all connections from the address are those of the client, what
was forwarded for the address and what the client's bucket still allows stay
within the bound together. -/
structure Within (address client : String) (start stop : Time) (σ : Relays) : Prop where
  sound : σ.ipLimiter.Sound σ.clock
  limits : σ.ipLimiter.rate = 500 ∧ σ.ipLimiter.burst = 500
  owner : ∀ n c, σ.conns.get n = some c → c.address = address → c.clientID = client
  bound : σ.ipLimiter.allowance client start stop + σ.forwardedIn address start stop ≤
    500 + 500 * seconds (stop - start)

variable {address client : String} {start stop : Time} {σ : Relays}

theorem within_new (address client : String) (start stop now : Time) :
    (new now).Within address client start stop where
  sound := IPLimiter.sound_new (by norm_num) (by norm_num) now
  limits := ⟨rfl, rfl⟩
  owner n c hc := by simp [new] at hc
  bound := by simp [new, forwardedIn, IPLimiter.allowance, IPLimiter.new]

/-- A step that only changes connections, and takes no client of the address but
the one. -/
theorem Within.of_conns (h : σ.Within address client start stop) {now : Time}
    (hnow : σ.clock ≤ now) {conns : Dict ℕ Connection}
    (hconns : ∀ n c, conns.get n = some c → c.address = address → c.clientID = client) :
    Within address client start stop { σ with conns := conns, clock := now } :=
  ⟨h.sound.later hnow, h.limits, hconns, h.bound⟩

/-- The new connection is checked, the others were there. -/
theorem Within.owner_set (h : σ.Within address client start stop) (n : ℕ) {c : Connection}
    (hc : c.address = address → c.clientID = client) (m : ℕ) (d : Connection)
    (hd : (σ.conns.set n c).get m = some d) (haddr : d.address = address) :
    d.clientID = client := by
  rw [Dict.get_set] at hd
  split_ifs at hd with hm
  · obtain rfl := Option.some.inj hd
    exact hc haddr
  · exact h.owner m d hd haddr

theorem Within.owner_del (h : σ.Within address client start stop) (n m : ℕ) (d : Connection)
    (hd : (σ.conns.del n).get m = some d) (haddr : d.address = address) : d.clientID = client := by
  rw [Dict.get_del] at hd
  split_ifs at hd with hm
  exact h.owner m d hd haddr

/-- A message that is let through counts once at most, and only in its window. -/
theorem countP_logged_le (address : String) (start stop : Time) (log : List (String × Time))
    (source : String) (now : Time) (allowed sent : Bool) :
    ((if allowed ∧ sent then (source, now) :: log else log).countP
        (inWindow address start stop) : ℚ) ≤
      (if allowed ∧ start ≤ now ∧ now ≤ stop then 1 else 0) +
        log.countP (inWindow address start stop) := by
  by_cases hsent : allowed ∧ sent
  · by_cases hin : start ≤ now ∧ now ≤ stop
    · rw [if_pos hsent, if_pos ⟨hsent.1, hin⟩, List.countP_cons]
      split_ifs <;> push_cast <;> linarith
    · have hout : inWindow address start stop (source, now) = false := by
        simp only [inWindow, decide_eq_false_iff_not]
        exact fun h => hin h.2
      rw [if_pos hsent, if_neg fun h => hin h.2, List.countP_cons, hout]
      simp
  · rw [if_neg hsent]
    split_ifs <;> linarith

/-- Messages of other addresses do not count. -/
theorem countP_logged_of_ne (log : List (String × Time)) {source : String}
    (hne : source ≠ address) (now : Time) (p : Prop) [Decidable p] :
    (if p then (source, now) :: log else log).countP (inWindow address start stop) =
      log.countP (inWindow address start stop) := by
  split_ifs
  · simp [inWindow, hne]
  · rfl

theorem Within.charge (h : σ.Within address client start stop) (hwindow : start ≤ stop) {n : ℕ}
    {created now : Time} (hcreated : σ.clock ≤ created) (hnow : created ≤ now) (sent : Bool) :
    Within address client start stop { σ.charge n created now sent with clock := now } := by
  have hclock : σ.clock ≤ now := hcreated.trans hnow
  unfold Relays.charge
  split
  · exact h.of_conns hclock h.owner
  · next c hc =>
    split
    · refine ⟨h.sound.allow hclock hnow c.ip, h.limits, ?_, ?_⟩
      · dsimp only
        split
        · exact h.owner_del n
        · exact h.owner_set n (h.owner n c hc)
      · have hbound := h.bound
        simp only [forwardedIn] at hbound ⊢
        by_cases hkey : c.ip = client
        · -- the bucket of the client pays for the message
          have hpaid := h.sound.allowance_allow hclock hnow hwindow c.ip
          have hcount := countP_logged_le address start stop σ.forwarded c.address now
            (σ.ipLimiter.allow c.ip created now).1 sent
          rw [hkey] at hpaid hcount ⊢
          linarith
        · -- another bucket does, so the message is one of another address
          have haddr : c.address ≠ address := fun ha => hkey (h.owner n c hc ha)
          rw [IPLimiter.allowance_allow_of_ne (Ne.symm hkey), countP_logged_of_ne _ haddr]
          exact hbound
    · exact h.of_conns hclock h.owner

theorem Within.step (h : σ.Within address client start stop) (hwindow : start ≤ stop)
    {m : RelayMove} (htick : σ.Ticks m) (hone : m.OneClient address client) :
    (σ.step m).Within address client start stop := by
  cases m with
  | relayWS n source id now =>
    simp only [Relays.step, relayWS]
    split
    · exact h.of_conns htick h.owner
    · exact h.of_conns htick (h.owner_set n hone)
  | read n now =>
    simp only [Relays.step, read]
    split
    · exact h.of_conns htick h.owner
    · next c hc =>
      split
      · exact h.of_conns htick h.owner
      · exact h.of_conns htick (h.owner_set n (h.owner n c hc))
  | charge n created now sent => exact h.charge hwindow htick.1 htick.2 sent
  | stop n => exact h.of_conns le_rfl (h.owner_del n)

end Relays

/-- In every run in which the connections from an address all belong to one
client, any window sees at most the burst and the rate of one bucket. -/
theorem forwarded_le_of_one_client (address client : String) (now : Time)
    (moves : List RelayMove) (hclock : Along Relays.step Relays.Ticks (.new now) moves)
    (hone : ∀ m ∈ moves, m.OneClient address client) (start stop : Time) (hwindow : start ≤ stop) :
    ((exec Relays.step (.new now) moves).forwardedIn address start stop : ℚ) ≤
      500 + 500 * seconds (stop - start) := by
  have hall := hclock.and (.of_forall_mem fun _ => hone)
  have hwithin : (exec Relays.step (.new now) moves).Within address client start stop :=
    exec_invariant (Relays.Within address client start stop)
      (fun σ m h hm => h.step hwindow hm.1 hm.2)
      (Relays.within_new address client start stop now) hall
  have hnonneg := hwithin.sound.allowance_nonneg hwindow client
  linarith [hwithin.bound]

theorem forwarded_le_of_one_client_shared :
    let moves : List RelayMove := [.relayWS 0 "10.0.0.1" "c1" 0, .relayWS 1 "10.0.0.1" "c1" 0,
      .read 0 0, .read 1 0, .charge 1 0 0 true, .charge 0 0 0 true]
    (exec Relays.step (.new 0) moves).forwardedIn "10.0.0.1" 0 0 = 2 ∧
      ((exec Relays.step (.new 0) moves).forwardedIn "10.0.0.1" 0 0 : ℚ) ≤
        500 + 500 * seconds (0 - 0) :=
  ⟨by decide +kernel, forwarded_le_of_one_client "10.0.0.1" "c1" 0 _ (by decide +kernel)
    (by decide +kernel) 0 0 le_rfl⟩

/-! ## Many clients behind one address -/

/-- The connection sends messages at one instant. -/
def volley (n : ℕ) (t : Time) (k : ℕ) : List RelayMove :=
  (List.replicate k [.read n t, .charge n t t true]).flatten

/-- Clients connect from one address, and each sends a hundred messages. -/
def crowd (address : String) (t : Time) : ℕ → List String → List RelayMove
  | _, [] => []
  | n, client :: rest =>
    .relayWS n address client t :: volley n t 100 ++ crowd address t (n + 1) rest

namespace Relays

/-- The connection waits for messages, with the tokens given in its bucket and
in that of its client. -/
structure Loaded (σ : Relays) (n : ℕ) (address client : String) (t : Time) (own shared : ℚ) :
    Prop where
  conn : σ.conns.get n = some ⟨address, client, ⟨own, 100, 100, t⟩, false⟩
  limits : σ.ipLimiter.rate = 500 ∧ σ.ipLimiter.burst = 500
  bucket : σ.ipLimiter.bucket client t = ⟨shared, 500, 500, t⟩

/-- Everything but one connection and one bucket is as before. -/
structure Apart (n : ℕ) (client : String) (σ τ : Relays) : Prop where
  conns : ∀ m, m ≠ n → τ.conns.get m = σ.conns.get m
  buckets : ∀ k, k ≠ client → τ.ipLimiter.buckets.get k = σ.ipLimiter.buckets.get k
  limits : τ.ipLimiter.rate = σ.ipLimiter.rate ∧ τ.ipLimiter.burst = σ.ipLimiter.burst

variable {σ : Relays} {n : ℕ} {address client : String} {t : Time} {own shared : ℚ}

theorem Apart.refl (n : ℕ) (client : String) (σ : Relays) : Apart n client σ σ :=
  ⟨fun _ _ => rfl, fun _ _ => rfl, rfl, rfl⟩

theorem Apart.trans {ρ τ : Relays} (h : Apart n client ρ σ) (h' : Apart n client σ τ) :
    Apart n client ρ τ :=
  ⟨fun m hm => (h'.conns m hm).trans (h.conns m hm),
    fun k hk => (h'.buckets k hk).trans (h.buckets k hk),
    h'.limits.1.trans h.limits.1, h'.limits.2.trans h.limits.2⟩

/-- At one instant a bucket with a token lets a message through. -/
theorem allow_at_once {x burst : ℚ} (rate : ℚ) (hx : 1 ≤ x) (hle : x ≤ burst) (t : Time) :
    (⟨x, rate, burst, t⟩ : TokenBucket).allow t = (true, ⟨x - 1, rate, burst, t⟩) := by
  have hfill : (⟨x, rate, burst, t⟩ : TokenBucket).refilled t = x := by
    simp [TokenBucket.refilled, seconds, hle]
  simp [TokenBucket.allow, hfill, not_lt.mpr hx]

/-- One message, read and forwarded. -/
theorem Loaded.message (h : σ.Loaded n address client t own shared) (hown : 1 ≤ own)
    (hown' : own ≤ 100) (hshared : 1 ≤ shared) (hshared' : shared ≤ 500) :
    let τ := (σ.step (.read n t)).step (.charge n t t true)
    τ.Loaded n address client t (own - 1) (shared - 1) ∧ Apart n client σ τ ∧
      τ.forwarded = (address, t) :: σ.forwarded := by
  have hread : (σ.step (.read n t)).conns.get n =
      some ⟨address, client, ⟨own - 1, 100, 100, t⟩, true⟩ := by
    simp [step, read, h.conn, allow_at_once 100 hown hown']
  have hpay : (σ.step (.read n t)).ipLimiter = σ.ipLimiter := by
    simp only [step, read, h.conn]
    rfl
  have hlog : (σ.step (.read n t)).forwarded = σ.forwarded := by
    simp only [step, read, h.conn]
    rfl
  have hother : ∀ m, m ≠ n → (σ.step (.read n t)).conns.get m = σ.conns.get m := by
    intro m hm
    simp [step, read, h.conn, hm]
  have hallow : (σ.ipLimiter.allow client t t) = (true, { σ.ipLimiter with
      buckets := σ.ipLimiter.buckets.set client ⟨shared - 1, 500, 500, t⟩ }) := by
    simp [IPLimiter.allow, h.bucket, allow_at_once 500 hshared hshared']
  generalize σ.step (.read n t) = ρ at hread hpay hlog hother ⊢
  have hstep : ρ.step (.charge n t t true) = { ρ with
      clock := t
      ipLimiter := { σ.ipLimiter with
        buckets := σ.ipLimiter.buckets.set client ⟨shared - 1, 500, 500, t⟩ }
      conns := ρ.conns.set n ⟨address, client, ⟨own - 1, 100, 100, t⟩, false⟩
      forwarded := (address, t) :: σ.forwarded } := by
    simp [step, charge, hread, hpay, hlog, Connection.ip, hallow]
  rw [hstep]
  refine ⟨⟨by simp, h.limits, by simp [IPLimiter.bucket]⟩, ⟨fun m hm => ?_, fun k hk => ?_, rfl, rfl⟩,
    rfl⟩
  · simp [hm, hother m hm]
  · simp [hk]

theorem Loaded.volley (h : σ.Loaded n address client t own shared) {k : ℕ} (hown : k ≤ own)
    (hown' : own ≤ 100) (hshared : k ≤ shared) (hshared' : shared ≤ 500) :
    Apart n client σ (exec step σ (volley n t k)) ∧
      (exec step σ (volley n t k)).forwarded =
        List.replicate k (address, t) ++ σ.forwarded := by
  induction k generalizing σ own shared with
  | zero => exact ⟨Apart.refl n client σ, rfl⟩
  | succ k ih =>
    have hk : (0 : ℚ) ≤ k := Nat.cast_nonneg k
    push_cast at hown hshared
    obtain ⟨hnext, hapart, hlog⟩ := h.message (by linarith) hown' (by linarith) hshared'
    have hrest := ih hnext (by linarith) (by linarith) (by linarith) (by linarith)
    have hvolley : volley n t (k + 1) =
        [.read n t, .charge n t t true] ++ volley n t k := by
      simp [volley, List.replicate_succ]
    rw [hvolley, exec_append]
    refine ⟨hapart.trans hrest.1, hrest.2.trans ?_⟩
    rw [hlog, List.replicate_succ', List.append_assoc]
    rfl

/-- However many clients come from one address, each has its own bucket. -/
theorem forwarded_crowd (address : String) (t : Time) (clients : List String) (n : ℕ)
    (hnodup : clients.Nodup) (hlimits : σ.ipLimiter.rate = 500 ∧ σ.ipLimiter.burst = 500)
    (hconns : ∀ m, n ≤ m → σ.conns.get m = none)
    (hbuckets : ∀ client ∈ clients, σ.ipLimiter.buckets.get client = none) :
    (exec step σ (crowd address t n clients)).forwarded =
      List.replicate (100 * clients.length) (address, t) ++ σ.forwarded := by
  induction clients generalizing σ n with
  | nil => rfl
  | cons client rest ih =>
    have hopen : σ.step (.relayWS n address client t) = { σ with
        clock := t, conns := σ.conns.set n ⟨address, client, .new 100 100 t, false⟩ } := by
      simp [step, relayWS, hconns n le_rfl]
    have hloaded : (σ.step (.relayWS n address client t)).Loaded n address client t 100 500 := by
      rw [hopen]
      refine ⟨by simp [TokenBucket.new], hlimits, ?_⟩
      simp [IPLimiter.bucket, hbuckets client (by simp), TokenBucket.new, hlimits]
    obtain ⟨hapart, hlog⟩ := hloaded.volley (k := 100) (by norm_num) (by norm_num) (by norm_num)
      (by norm_num)
    rw [crowd, List.cons_append, exec_cons, exec_append, ih (n + 1) (List.nodup_cons.mp hnodup).2,
      hlog, hopen]
    · rw [← List.append_assoc, List.replicate_append_replicate]
      rw [List.length_cons, Nat.mul_succ]
    · rw [hapart.limits.1, hapart.limits.2, hopen]
      exact hlimits
    · intro m hm
      rw [hapart.conns m (by omega), hopen]
      simp [show m ≠ n by omega, hconns m (by omega)]
    · intro other hother
      have hne : other ≠ client := fun he => (List.nodup_cons.mp hnodup).1 (he ▸ hother)
      rw [hapart.buckets other hne, hopen]
      exact hbuckets other (List.mem_cons_of_mem _ hother)

end Relays

/-- The move reads the clock at the given time only. -/
def RelayMove.At (t : Time) : RelayMove → Prop
  | .relayWS _ _ _ now | .read _ now => now = t
  | .charge _ created now _ => created = t ∧ now = t
  | .stop _ => True

theorem at_of_mem_crowd {address : String} {t : Time} {n : ℕ} {clients : List String}
    {m : RelayMove} (hm : m ∈ crowd address t n clients) : m.At t := by
  induction clients generalizing n with
  | nil => cases hm
  | cons client rest ih =>
    simp only [crowd, volley, List.cons_append, List.mem_cons, List.mem_append,
      List.mem_flatten, List.mem_replicate] at hm
    rcases hm with rfl | ⟨pair, ⟨-, rfl⟩, hpair⟩ | hrest
    · rfl
    · rcases List.mem_pair.mp hpair with rfl | rfl
      · rfl
      · exact ⟨rfl, rfl⟩
    · exact ih hrest

theorem Relays.along_ticks_of_at {σ : Relays} {t : Time} {moves : List RelayMove}
    (hclock : σ.clock ≤ t) (hat : ∀ m ∈ moves, m.At t) : Along step Ticks σ moves := by
  have hall : Along step (fun _ m => m.At t) σ moves := .of_forall_mem fun _ => hat
  refine hall.of_invariant (fun ρ : Relays => ρ.clock ≤ t) (fun ρ m hρ hm => ?_) hclock
  cases m with
  | relayWS n address client now => exact ⟨hm ▸ hρ, hm.le⟩
  | read n now => exact ⟨hm ▸ hρ, hm.le⟩
  | charge n created now sent => exact ⟨⟨hm.1 ▸ hρ, (hm.1.trans hm.2.symm).le⟩, hm.2.le⟩
  | stop n => exact ⟨trivial, hρ⟩

/-- Six clients behind one address send six hundred messages at one instant. -/
theorem six_clients_exceed :
    let moves := crowd "10.0.0.1" 0 0 ["c1", "c2", "c3", "c4", "c5", "c6"]
    Along Relays.step Relays.Ticks (.new 0) moves ∧
      ¬((exec Relays.step (.new 0) moves).forwardedIn "10.0.0.1" 0 0 : ℚ) ≤
        500 + 500 * seconds (0 - 0) := by
  refine ⟨Relays.along_ticks_of_at le_rfl fun m => at_of_mem_crowd, ?_⟩
  have hlog := Relays.forwarded_crowd (σ := .new 0) "10.0.0.1" 0
    ["c1", "c2", "c3", "c4", "c5", "c6"] 0 (by decide) ⟨rfl, rfl⟩ (fun _ _ => rfl) fun _ _ => rfl
  have hcount : (exec Relays.step (.new 0) (crowd "10.0.0.1" 0 0
      ["c1", "c2", "c3", "c4", "c5", "c6"])).forwardedIn "10.0.0.1" 0 0 = 600 := by
    rw [Relays.forwardedIn, hlog, List.countP_append, List.countP_replicate]
    rfl
  rw [hcount]
  norm_num [seconds]

end SpatialServer.Gateway
