import SpatialServer.Runs

/-!
# Requests and open connections of the gateway

A WebSocket request is handled in a goroutine of its own: it is checked,
counted, routed and upgraded, and then handed to a relay that outlives it. The
count is taken back when the handler returns. Handlers and relays run side by
side, so a handler in progress is the list of what it has still to do, and any
of them may take the next step. What the token, the room service and the
upgrade answer is up to the environment.
-/
namespace SpatialServer.Gateway

open Runs

structure Claims where
  playerID : String
  runtimeID : String
  zoneID : String
  deriving DecidableEq, Repr

/-- Where a call of `handleWS` stands. -/
inductive Stage where
  | entered (token : String)
  | admitted (token : String)
  | counted (claims : Claims)
  | routed (claims : Claims) (addr : String)
  | accepted (claims : Claims) (addr : String)
  /-- Only the deferred decrement is left. -/
  | returning
  deriving DecidableEq, Repr

/-- What the handler is told: the claims of a valid token, the address of the
zone, and whether the upgrade succeeds. -/
structure Answers where
  claims : Option Claims
  addr : Option String
  accepts : Bool

structure Handler where
  draining : Bool
  conns : ℤ
  softLimit : ℤ
  /-- What `readyFn` answers at present, where one is set. -/
  readyFn : Option Bool
  calls : List Stage
  /-- The clients of the connections whose `relayWS` has not returned. -/
  relays : List String
  /-- The errors written so far, the latest first. -/
  replies : List (ℕ × String)

/-- The element at the position is replaced, or taken out. -/
def replaceAt {α : Type*} (l : List α) (k : ℕ) (r : Option α) : List α :=
  l.take k ++ (r.toList ++ l.drop (k + 1))

theorem countP_replaceAt {α : Type*} (p : α → Bool) {l : List α} {k : ℕ} {a : α}
    (h : l[k]? = some a) (r : Option α) :
    (replaceAt l k r).countP p + (if p a then 1 else 0) = l.countP p + r.toList.countP p := by
  obtain ⟨hk, rfl⟩ := List.getElem?_eq_some_iff.mp h
  have hl : l.countP p = (l.take k).countP p + (l[k] :: l.drop (k + 1)).countP p := by
    rw [← List.countP_append, ← List.drop_eq_getElem_cons hk, List.take_append_drop]
  rw [hl, replaceAt, List.countP_append, List.countP_append, List.countP_cons]
  omega

namespace Handler

def new : Handler := ⟨false, 0, 9000, none, [], [], []⟩

def connCount (h : Handler) : ℤ := h.conns

def handleReady (h : Handler) (get : Bool) : ℕ :=
  if ¬get then 405
  else if h.draining then 503
  else if h.readyFn = some false then 503
  else if h.conns ≥ h.softLimit then 503
  else 200

def error (h : Handler) (status : ℕ) (text : String) : Handler :=
  { h with replies := (status, text) :: h.replies }

/-- The next statement of a call, and where the call stands then; `none` has
returned. -/
def proceed (h : Handler) (a : Answers) : Stage → Handler × Option Stage
  | .entered token =>
    if h.draining then (h.error 503 "draining", none) else (h, some (.admitted token))
  | .admitted token =>
    if token = "" then (h.error 400 "missing token", none)
    else match a.claims with
      | none => (h.error 401 "invalid token", none)
      | some claims => ({ h with conns := h.conns + 1 }, some (.counted claims))
  | .counted claims =>
    match a.addr with
    | none => (h.error 503 "zone not available", some .returning)
    | some addr => (h, some (.routed claims addr))
  | .routed claims addr => (h, some (if a.accepts then .accepted claims addr else .returning))
  | .accepted claims _ => ({ h with relays := h.relays ++ [claims.playerID] }, some .returning)
  | .returning => ({ h with conns := h.conns - 1 }, none)

/-- The call at the position, if there is one, takes its next step. -/
def advance (h : Handler) (k : ℕ) (a : Answers) : Handler :=
  match h.calls[k]? with
  | none => h
  | some stage =>
    let r := h.proceed a stage
    { r.1 with calls := replaceAt h.calls k r.2 }

end Handler

inductive HandlerStep where
  | handleWS (token : String)
  | advance (k : ℕ) (a : Answers)
  | relayReturns (k : ℕ)
  | setDraining (v : Bool)
  | setReadyFn (answer : Option Bool)

namespace Handler

def step (h : Handler) : HandlerStep → Handler
  | .handleWS token => { h with calls := h.calls ++ [.entered token] }
  | .advance k a => h.advance k a
  | .relayReturns k => { h with relays := h.relays.eraseIdx k }
  | .setDraining v => { h with draining := v }
  | .setReadyFn answer => { h with readyFn := answer }

end Handler

/-- The call has added itself to the count. -/
def Stage.isCounted : Stage → Bool
  | .entered _ | .admitted _ => false
  | _ => true

namespace Handler

/-- What a call still to come back contributes to the count. -/
theorem conns_proceed (h : Handler) (a : Answers) (stage : Stage) :
    (h.proceed a stage).1.conns + (if stage.isCounted then 1 else 0) =
      h.conns + (h.proceed a stage).2.toList.countP Stage.isCounted := by
  cases stage with
  | entered token =>
    by_cases hdrain : h.draining <;> simp [proceed, error, hdrain, Stage.isCounted]
  | admitted token =>
    by_cases htoken : token = ""
    · simp [proceed, error, htoken, Stage.isCounted]
    · cases hclaims : a.claims <;> simp [proceed, error, htoken, hclaims, Stage.isCounted]
  | counted claims =>
    cases haddr : a.addr <;> simp [proceed, error, haddr, Stage.isCounted]
  | routed claims addr =>
    by_cases haccepts : a.accepts <;> simp [proceed, haccepts, Stage.isCounted]
  | accepted claims addr => simp [proceed, Stage.isCounted]
  | returning => simp [proceed, Stage.isCounted]

/-- The count is that of the calls between their increment and their return. -/
def CountsCalls (h : Handler) : Prop := h.conns = h.calls.countP Stage.isCounted

theorem CountsCalls.step {h : Handler} (hc : h.CountsCalls) (s : HandlerStep) :
    (h.step s).CountsCalls := by
  unfold CountsCalls at hc ⊢
  cases s with
  | handleWS token => simpa [Handler.step, Stage.isCounted] using hc
  | advance k a =>
    simp only [Handler.step, advance]
    split
    · exact hc
    · next stage hstage =>
      have hcount := countP_replaceAt Stage.isCounted hstage (h.proceed a stage).2
      have hconns := h.conns_proceed a stage
      dsimp only
      split_ifs at hcount hconns <;> omega
  | relayReturns k => exact hc
  | setDraining v => exact hc
  | setReadyFn answer => exact hc

theorem countsCalls_exec (steps : List HandlerStep) : (exec step new steps).CountsCalls := by
  have hnew : new.CountsCalls := rfl
  exact exec_keeps CountsCalls (fun _ s hc => hc.step s) hnew steps

/-- While no request is handled, the count is that of the open connections, and
`/ready` refuses by it. -/
def CountsOpen (h : Handler) : Prop :=
  h.calls = [] → h.connCount = h.relays.length ∧
    (h.draining = false → h.readyFn ≠ some false →
      (h.handleReady true = 503 ↔ h.softLimit ≤ h.relays.length))

instance (h : Handler) : Decidable h.CountsOpen := by unfold CountsOpen; infer_instance

/-- While no request is handled the count is zero, whatever is open. -/
theorem CountsCalls.countsOpen_iff {h : Handler} (hc : h.CountsCalls) :
    h.CountsOpen ↔ (h.calls = [] → h.relays = []) := by
  constructor
  · intro hopen hquiet
    have hzero : h.conns = 0 := by rw [hc, hquiet]; rfl
    have hlength : (h.relays.length : ℤ) = 0 := ((hopen hquiet).1).symm.trans hzero
    exact List.length_eq_zero_iff.mp (by exact_mod_cast hlength)
  · intro hclosed hquiet
    have hzero : h.conns = 0 := by rw [hc, hquiet]; rfl
    refine ⟨by rw [connCount, hzero, hclosed hquiet]; rfl, fun hdrain hready => ?_⟩
    simp [handleReady, hdrain, hready, hzero, hclosed hquiet]

/-- The count is right in every state of a run if and only if no connection is
open in any state of it in which no request is being handled. -/
theorem connCount_correct_iff (steps : List HandlerStep) :
    (∀ part, part <+: steps → (exec step new part).CountsOpen) ↔
      ∀ part, part <+: steps → (exec step new part).calls = [] →
        (exec step new part).relays = [] := by
  constructor
  · intro h part hpart
    exact (countsCalls_exec part).countsOpen_iff.mp (h part hpart)
  · intro h part hpart
    exact (countsCalls_exec part).countsOpen_iff.mpr (h part hpart)

/-- One accepted connection stays open after its request is handled. -/
theorem accepted_connection_uncounted :
    let a : Answers := ⟨some ⟨"p1", "space-1", "z1"⟩, some "gs-1:9000", true⟩
    let h := exec step new (.handleWS "token" :: List.replicate 6 (.advance 0 a))
    h.calls = [] ∧ h.relays = ["p1"] ∧ h.connCount = 0 ∧ ¬h.CountsOpen := by
  decide +kernel

end Handler

end SpatialServer.Gateway
