import SpatialServer.Tables

/-!
# Session tokens in Redis

A gateway keeps a session under a key made from a random token, with a time to
live that every lookup renews. A lookup is two commands, a read and the renewal,
and other gateways run theirs in between; a key can be deleted or expire after
it was read. The renewal has no effect on a missing key, and a token is issued
once, so a key that is gone stays gone.

Redis is taken at its word: each command is atomic, a key is there until its time
is over, and the clock of the server does not go back. A command may fail without
effect, or take effect while its reply is lost.
-/
namespace SpatialServer.Gateway

open Runs Statements

structure SessionRecord where
  playerID : String
  runtimeID : String
  zoneID : String
  gameServerAddr : String
  createdAt : Time
  lastActivity : Time
  sourceIP : String
  deriving DecidableEq, Repr

/-! ## Redis -/

/-- The commands in use, on keys that hold `Data`. -/
inductive RedisOp (Data : Type) where
  | set (key : String) (data : Data) (ttl : Duration)
  | get (key : String)
  | expire (key : String) (ttl : Duration)
  | del (key : String)

/-- A missing key is no error of a read. -/
def RedisOp.Reply {Data : Type} : RedisOp Data → Type
  | .set _ _ _ => Except String Unit
  | .get _ => Except String (Option Data)
  | .expire _ _ => Except String Bool
  | .del _ => Except String ℕ

/-- What the environment decides about a command. -/
structure RedisChoice where
  outcome : Outcome
  error : String
  now : Time
  deriving DecidableEq, Repr

/-- The keys, with their data and the end of their time. -/
structure Redis (Data : Type) where
  keys : Dict String (Data × Time)

namespace Redis

variable {Data : Type}

/-- The data of a key that is there at the given time. -/
def live (db : Redis Data) (key : String) (now : Time) : Option Data :=
  match db.keys.get key with
  | some (data, expiresAt) => if now < expiresAt then some data else none
  | none => none

def answer {α : Type} (db db' : Redis Data) (c : RedisChoice) (reply : α) :
    Except String α × Redis Data :=
  match c.outcome with
  | .done => (.ok reply, db')
  | .failed => (.error c.error, db)
  | .lost => (.error c.error, db')

def run (db : Redis Data) (c : RedisChoice) : (op : RedisOp Data) → op.Reply × Redis Data
  | .set key data ttl => db.answer ⟨db.keys.set key (data, c.now + ttl)⟩ c ()
  | .get key => db.answer db c (db.live key c.now)
  | .expire key ttl =>
    match db.live key c.now with
    | some data => db.answer ⟨db.keys.set key (data, c.now + ttl)⟩ c true
    | none => db.answer db c false
  | .del key => db.answer ⟨db.keys.del key⟩ c (if (db.live key c.now).isSome then 1 else 0)

end Redis

/-! ## The session store -/

abbrev SessionProg (Data α : Type) := Prog (RedisOp Data) RedisOp.Reply α

/-- The time to live, and how records are written and read. -/
structure RedisSessionStore (Data : Type) where
  ttl : Duration
  marshal : SessionRecord → Except String Data
  unmarshal : Data → Except String SessionRecord

namespace RedisSessionStore

variable {Data : Type}

def sessionKey (token : String) : String := "session:" ++ token

/-- The record as it is stored. A record without a time of creation gets that of
the gateway's clock. -/
def stamp (rec : SessionRecord) (now : Time) : SessionRecord :=
  let createdAt := if rec.createdAt = 0 then now else rec.createdAt
  { rec with createdAt := createdAt, lastActivity := createdAt }

/-! The replies to a write, a renewal and a deletion, as they are passed on. -/

def setReply (token : String) : Except String Unit → Except String String
  | .error e => .error ("redis set session: " ++ e)
  | .ok () => .ok token

def expireReply : Except String Bool → Except String Unit
  | .error e => .error ("redis expire session: " ++ e)
  | .ok _ => .ok ()

def delReply : Except String ℕ → Except String Unit
  | .error e => .error ("redis del session: " ++ e)
  | .ok _ => .ok ()

/-- The random source gives a token or fails. -/
def issue (s : RedisSessionStore Data) (rec : SessionRecord) (generated : Except String String)
    (now : Time) : SessionProg Data (Except String String) :=
  match generated with
  | .error e => return .error ("generate token: " ++ e)
  | .ok token =>
    match s.marshal (stamp rec now) with
    | .error e => return .error ("marshal session record: " ++ e)
    | .ok data => do
      let reply ← Prog.query (RedisOp.set (sessionKey token) data s.ttl)
      return setReply token reply

def touch (s : RedisSessionStore Data) (token : String) : SessionProg Data (Except String Unit) := do
  let reply ← Prog.query (RedisOp.expire (sessionKey token) s.ttl)
  return expireReply reply

/-- What a lookup does with the reply to its read. -/
def found (s : RedisSessionStore Data) (token : String) :
    Except String (Option Data) → SessionProg Data (Except String (Option SessionRecord))
  | .error e => return .error ("redis get session: " ++ e)
  | .ok none => return .ok none
  | .ok (some raw) =>
    match s.unmarshal raw with
    | .error e => return .error ("unmarshal session record: " ++ e)
    | .ok rec => do
      match ← s.touch token with
      | .error e => return .error e
      | .ok () => return .ok (some rec)

def lookup (s : RedisSessionStore Data) (token : String) :
    SessionProg Data (Except String (Option SessionRecord)) := do
  let reply ← Prog.query (RedisOp.get (sessionKey token))
  s.found token reply

def revoke (token : String) : SessionProg Data (Except String Unit) := do
  let reply ← Prog.query (RedisOp.del (sessionKey token))
  return delReply reply

end RedisSessionStore

inductive SessionCall where
  | issue (rec : SessionRecord) (generated : Except String String) (now : Time)
  | lookup (token : String)
  | touch (token : String)
  | revoke (token : String)

inductive SessionAnswer where
  | issued (token : Except String String)
  | looked (rec : Except String (Option SessionRecord))
  | status (reply : Except String Unit)

namespace SessionCall

variable {Data : Type} (s : RedisSessionStore Data)

def prog : SessionCall → SessionProg Data SessionAnswer
  | .issue rec generated now => do return .issued (← s.issue rec generated now)
  | .lookup token => do return .looked (← s.lookup token)
  | .touch token => do return .status (← s.touch token)
  | .revoke token => do return .status (← RedisSessionStore.revoke token)

end SessionCall

/-- One Redis and the calls of all gateways, each by its number. -/
abbrev SharedSessions (Data : Type) :=
  Pool (RedisOp Data) RedisOp.Reply (Redis Data) SessionAnswer

namespace SharedSessions

open RedisSessionStore

variable {Data : Type}

def start (s : RedisSessionStore Data) (calls : ℕ → SessionCall) : SharedSessions Data :=
  ⟨⟨∅⟩, fun i => (calls i).prog s⟩

/-- The next command of a call. -/
abbrev step : SharedSessions Data → ℕ × RedisChoice → SharedSessions Data := Pool.step Redis.run

/-- The command does not set the key, and renews for the time of the store. -/
def Keeps (s : RedisSessionStore Data) (key : String) : RedisOp Data → Prop
  | .set key' _ _ => key' ≠ key
  | .expire _ ttl => ttl = s.ttl
  | _ => True

section Settled

variable {s : RedisSessionStore Data} {token : String} {p : SharedSessions Data}

theorem store_step {ev : ℕ × RedisChoice} {op : RedisOp Data}
    {k : op.Reply → SessionProg Data SessionAnswer} (h : p.threads ev.1 = .step op k) :
    (step p ev).store = (p.store.run ev.2 op).2 := by
  rw [step, Pool.step_of_step h]

end Settled

/-! ## The calls -/

section Calls

variable (s : RedisSessionStore Data)

/-- The command sets no key, and renews for the time of the store. -/
def KeepsAll (op : RedisOp Data) : Prop := ∀ key, Keeps s key op

theorem only_touch (token : String) : (s.touch token).Only (KeepsAll s) :=
  ⟨fun _ => rfl, fun _ => trivial⟩

theorem only_found (token : String) (reply : Except String (Option Data)) :
    (s.found token reply).Only (KeepsAll s) := by
  rcases reply with e | _ | raw
  · trivial
  · trivial
  · rw [found]
    rcases s.unmarshal raw with e | rec
    · trivial
    · refine (only_touch s token).bind fun renewed => ?_
      rcases renewed with e | _ <;> trivial

/-- A call sets a key as its first command, which is its only one, or never. -/
theorem prog_cases (c : SessionCall) :
    (∃ rec token now data k, c = .issue rec (.ok token) now ∧
      s.marshal (stamp rec now) = .ok data ∧
      c.prog s = .step (.set (sessionKey token) data s.ttl) k ∧ ∀ r, ∃ a, k r = .done a) ∨
    (c.prog s).Only (KeepsAll s) := by
  cases c with
  | issue rec generated now =>
    rcases generated with e | token
    · exact .inr trivial
    · rcases hdata : s.marshal (stamp rec now) with e | data
      · exact .inr (by simp only [SessionCall.prog, issue, hdata]; trivial)
      · refine .inl ⟨rec, token, now, data, fun r => .done (.issued (setReply token r)), rfl, hdata,
          ?_, fun r => ⟨_, rfl⟩⟩
        simp only [SessionCall.prog, issue, hdata]
        rfl
  | lookup token =>
    refine .inr (Prog.Only.bind ?_ fun _ => trivial)
    exact ⟨fun key => trivial, only_found s token⟩
  | touch token => exact .inr ((only_touch s token).bind fun _ => trivial)
  | revoke token =>
    exact .inr ⟨fun _ => trivial, fun _ => trivial⟩

variable {s} {calls : ℕ → SessionCall} {p : SharedSessions Data}

/-- The record was issued with the token, by a call that has returned. -/
def Issued (calls : ℕ → SessionCall) (p : SharedSessions Data) (token : String)
    (r : SessionRecord) : Prop :=
  ∃ i rec now, calls i = .issue rec (.ok token) now ∧ (p.threads i).result.isSome ∧
    r = stamp rec now

theorem Issued.step {token : String} {r : SessionRecord} (h : Issued calls p token r)
    (ev : ℕ × RedisChoice) : Issued calls (step p ev) token r := by
  obtain ⟨i, rec, now, hcall, hreturned, rfl⟩ := h
  obtain ⟨a, ha⟩ := Option.isSome_iff_exists.mp hreturned
  exact ⟨i, rec, now, hcall, by rw [SharedSessions.step, Pool.result_step_of_some ha]; rfl, rfl⟩

end Calls

end SharedSessions

end SpatialServer.Gateway
