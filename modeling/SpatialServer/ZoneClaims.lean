import SpatialServer.RoomService

/-!
# Claims and releases under interleaving

A claim is a conditional update and, where that matched nothing, a query for the
owner that decides between a conflict and a success. Other calls run between
the two. A release that succeeds is the update itself; a claim that succeeds is
the update or the query, and the query also lets a zone pass that has just lost
its owner, and every error but a missing row.
-/
namespace SpatialServer.Room

open Runs Statements ZoneRepository

/-- What a claim and a release do with the reply to their update: an update
without a match leaves the verdict to a query for the owner. -/
def afterUpdate (verb z : String)
    (verdict : Except QueryError (Option ServerID) → Except StoreError Unit) :
    Except String ℕ → Tx Answer
  | .error err => .done (.status (.error (.database (verb ++ " zone " ++ z ++ ": " ++ err))))
  | .ok n =>
    if n = 0 then .step (.selectOwner z) fun reply => .done (.status (verdict reply))
    else .done (.status (.ok ()))

theorem prog_claim (z : String) (r : RuntimeID) (s : ServerID) :
    (RoomCall.claim z r s).prog =
      .step (.claimZone z s) (afterUpdate "claim" z (claimReply z s)) := by
  refine congrArg (Prog.step _) (funext fun reply => ?_)
  cases reply with
  | error err => rfl
  | ok n => cases n <;> rfl

theorem prog_release (z : String) (s : ServerID) :
    (RoomCall.release z s).prog =
      .step (.releaseZone z s) (afterUpdate "release" z (releaseReply z)) := by
  refine congrArg (Prog.step _) (funext fun reply => ?_)
  cases reply with
  | error err => rfl
  | ok n => cases n <;> rfl

/-- How far such a call has come, and what must have happened for it to succeed. -/
inductive Stage (first : Tx Answer) (z : String)
    (verdict : Except QueryError (Option ServerID) → Except StoreError Unit) (made : Prop) :
    Tx Answer → Prop where
  | start : Stage first z verdict made first
  | check : Stage first z verdict made
      (.step (.selectOwner z) fun reply => .done (.status (verdict reply)))
  | failed (err : StoreError) : Stage first z verdict made (.done (.status (.error err)))
  | succeeded (h : made) : Stage first z verdict made (.done (.status (.ok ())))

theorem Stage.mono {first q : Tx Answer} {z : String}
    {verdict : Except QueryError (Option ServerID) → Except StoreError Unit} {made made' : Prop}
    (himp : made → made') (h : Stage first z verdict made q) : Stage first z verdict made' q := by
  cases h with
  | start => exact .start
  | check => exact .check
  | failed err => exact .failed err
  | succeeded h => exact .succeeded (himp h)

theorem Stage.made {first : Tx Answer} {z : String}
    {verdict : Except QueryError (Option ServerID) → Except StoreError Unit} {made : Prop}
    (hfirst : first.result = none)
    (h : Stage first z verdict made (.done (.status (.ok ())))) : made := by
  generalize hq : Prog.done (Answer.status (.ok ())) = q at h
  cases h with
  | start => simp [← hq] at hfirst
  | check => cases hq
  | failed err => cases hq
  | succeeded h => exact h

/-- An acknowledged update that matched the row made the server its owner. -/
theorem owner_of_claimZone {db : Database} {c : Choice} {z : String} {s : ServerID} {n : ℕ}
    (h : (db.exec c (.claimZone z s)).1 = .ok n) (hn : n ≠ 0) :
    (db.exec c (.claimZone z s)).2.owner z = some s := by
  have hres : db.claimZone z s = some (n, (db.exec c (.claimZone z s)).2) := Choice.write_eq_ok h
  obtain ⟨hcase, -⟩ | ⟨hcase, -⟩ | ⟨hs, hcase, -⟩ := db.claimZone_cases z s
  · rw [hcase] at hres
    simp only [Option.some.injEq, Prod.mk.injEq] at hres
    exact absurd hres.1.symm hn
  · rw [hcase] at hres
    cases hres
  · rw [hcase] at hres
    simp only [Option.some.injEq, Prod.mk.injEq] at hres
    rw [← hres.2]
    simp

theorem owner_of_releaseZone {db : Database} {c : Choice} {z : String} {s : ServerID} {n : ℕ}
    (h : (db.exec c (.releaseZone z s)).1 = .ok n) (hn : n ≠ 0) :
    db.owner z = some s ∧ (db.exec c (.releaseZone z s)).2.owner z = none := by
  have hres : db.releaseZone z s = some (n, (db.exec c (.releaseZone z s)).2) :=
    Choice.write_eq_ok h
  unfold Database.releaseZone at hres
  split_ifs at hres with howner
  · simp only [Option.some.injEq, Prod.mk.injEq] at hres
    rw [← hres.2]
    exact ⟨howner, by simp⟩
  · simp only [Option.some.injEq, Prod.mk.injEq] at hres
    exact absurd hres.1.symm hn

/-- The query that follows an update without a match is answered and finds the
row, if there is one, in the hands of a server with a name. -/
def ChecksOwner (calls : ℕ → RoomCall) (p : Room) (ev : ℕ × Choice) : Prop :=
  match calls ev.1 with
  | .claim z _ s =>
    (p.threads ev.1).next = some (.selectOwner z) → ev.2.outcome = .done ∧
      (p.store.zones.get z ≠ none →
        p.store.owner z ≠ none ∧ (p.store.owner z = some "" → s = ""))
  | _ => True

instance (calls : ℕ → RoomCall) (p : Room) (ev : ℕ × Choice) :
    Decidable (ChecksOwner calls p ev) :=
  match h : calls ev.1 with
  | .claim z r s =>
    decidable_of_iff ((p.threads ev.1).next = some (.selectOwner z) → ev.2.outcome = .done ∧
      (p.store.zones.get z ≠ none →
        p.store.owner z ≠ none ∧ (p.store.owner z = some "" → s = ""))) (by simp [ChecksOwner, h])
  | .release .. | .lookup _ | .register _ | .heartbeat .. | .lookupZone _ | .sweep _ =>
    isTrue (by simp [ChecksOwner, h])

theorem owner_of_check {db : Database} {c : Choice} {z : String} {s : ServerID}
    (hdone : c.outcome = .done) (hrow : db.zones.get z ≠ none →
      db.owner z ≠ none ∧ (db.owner z = some "" → s = ""))
    (h : claimReply z s (db.exec c (.selectOwner z)).1 = .ok ()) : db.owner z = some s := by
  change claimReply z s (c.readRow ((db.zones.get z).map ZoneRow.serverID)) = .ok () at h
  cases hget : db.zones.get z with
  | none => simp [hget, Choice.readRow, hdone, claimReply] at h
  | some row =>
    obtain ⟨hsome, hempty⟩ := hrow (by simp [hget])
    rw [Database.owner_of_get hget] at hsome hempty ⊢
    obtain ⟨o, ho⟩ := Option.ne_none_iff_exists'.mp hsome
    simp only [hget, Option.map_some, ho, Choice.readRow, hdone, if_true, claimReply] at h
    split_ifs at h with hconflict
    rw [ho]
    by_cases hname : o = ""
    · rw [hempty (by rw [ho, hname]), hname]
    · have : ¬ o ≠ s := fun hs => hconflict ⟨hname, hs⟩
      simpa using this

section Calls

variable {db : Database} {calls : ℕ → RoomCall} {i : ℕ} {z : String} {s : ServerID}

theorem stage_claim {r : RuntimeID} (hcall : calls i = .claim z r s)
    {evs : List (ℕ × Choice)} (h : Along step (ChecksOwner calls) (start db calls) evs) :
    Stage (.step (.claimZone z s) (afterUpdate "claim" z (claimReply z s))) z (claimReply z s)
      (Pool.During Database.exec (start db calls) i (fun _ db' => db'.owner z = some s) evs)
      ((exec step (start db calls) evs).threads i) := by
  refine Pool.thread_invariant (fun evs q => Stage _ z (claimReply z s) (Pool.During Database.exec
    (start db calls) i (fun _ db' => db'.owner z = some s) evs) q) ?_
    (fun evs ev q _ _ hq => hq.mono fun hmade => hmade.append [ev]) ?_ h
  · simp only [start, hcall, prog_claim]
    exact .start
  · intro evs c op k hthread hcheck hstage
    cases hstage with
    | start =>
      cases hreply : (Database.exec (exec step (start db calls) evs).store c
          (.claimZone z s)).1 with
      | error err => exact .failed _
      | ok n =>
        simp only [afterUpdate]
        split_ifs with hn
        · exact .check
        · exact .succeeded (Pool.During.last hthread (owner_of_claimZone hreply hn))
    | check =>
      simp only [ChecksOwner, hcall, hthread, Prog.next, forall_const] at hcheck
      beta_reduce
      cases hreply : claimReply z s (Database.exec (exec step (start db calls) evs).store c
          (.selectOwner z)).1 with
      | error err => exact .failed err
      | ok u =>
        have howner := owner_of_check hcheck.1 hcheck.2 hreply
        refine .succeeded (Pool.During.last hthread ?_)
        exact howner

theorem stage_release (hcall : calls i = .release z s) (evs : List (ℕ × Choice)) :
    Stage (.step (.releaseZone z s) (afterUpdate "release" z (releaseReply z))) z (releaseReply z)
      (Pool.During Database.exec (start db calls) i
        (fun db' db'' => db'.owner z = some s ∧ db''.owner z = none) evs)
      ((exec step (start db calls) evs).threads i) := by
  have hany : Along step (fun _ _ => True) (start db calls) evs :=
    Along.of_forall_mem fun _ _ _ => trivial
  refine Pool.thread_invariant (fun evs q => Stage _ z (releaseReply z) (Pool.During Database.exec
    (start db calls) i (fun db' db'' => db'.owner z = some s ∧ db''.owner z = none) evs) q) ?_
    (fun evs ev q _ _ hq => hq.mono fun hmade => hmade.append [ev]) ?_ hany
  · simp only [start, hcall, prog_release]
    exact .start
  · intro evs c op k hthread _ hstage
    cases hstage with
    | start =>
      cases hreply : (Database.exec (exec step (start db calls) evs).store c
          (.releaseZone z s)).1 with
      | error err => exact .failed _
      | ok n =>
        simp only [afterUpdate]
        split_ifs with hn
        · exact .check
        · exact .succeeded (Pool.During.last hthread (owner_of_releaseZone hreply hn))
    | check =>
      -- whatever the query says, it only picks the error
      cases hreply : (Database.exec (exec step (start db calls) evs).store c
          (.selectOwner z)).1 with
      | ok o => exact .failed _
      | error e => cases e <;> exact .failed _

end Calls

/-- Where no claim passes on a query that failed or read no owner, a claim that
succeeds saw its server own the zone, and a release that succeeds took the zone
from its server. -/
theorem claim_and_release_take_effect (db : Database) (calls : ℕ → RoomCall)
    (evs : List (ℕ × Choice)) (h : Along step (ChecksOwner calls) (start db calls) evs)
    (i : ℕ) (hret : (exec step (start db calls) evs).answer i = some (.status (.ok ())))
    (z : String) (s : ServerID) :
    (∀ r, calls i = .claim z r s → Pool.During Database.exec (start db calls) i
      (fun _ db' => db'.owner z = some s) evs) ∧
    (calls i = .release z s → Pool.During Database.exec (start db calls) i
      (fun db' db'' => db'.owner z = some s ∧ db''.owner z = none) evs) := by
  have hdone := Prog.result_eq_some.mp hret
  constructor
  · intro r hcall
    have hstage := stage_claim hcall h
    rw [hdone] at hstage
    exact hstage.made rfl
  · intro hcall
    have hstage : Stage _ z (releaseReply z) _ ((exec step (start db calls) evs).threads i) :=
      stage_release hcall evs
    rw [hdone] at hstage
    exact hstage.made rfl

theorem claim_and_release_take_effect_handover :
    let row : ServerRow := ⟨"h", 1, .active, 10, 0⟩
    let db := Database.pair row row ⟨.active, some "a"⟩ (by simp)
    let calls := fun i => if i = 0 then RoomCall.claim "z" "" "b" else .release "z" "a"
    let c := Choice.clean [] 0
    Pool.During Database.exec (start db calls) 0 (fun _ db' => db'.owner "z" = some "b")
      [(1, c), (0, c)] ∧
    Pool.During Database.exec (start db calls) 1
      (fun db' db'' => db'.owner "z" = some "a" ∧ db''.owner "z" = none) [(1, c), (0, c)] := by
  intro row db calls c
  have hall : Along step (ChecksOwner calls) (start db calls) [(1, c), (0, c)] := by
    decide +kernel
  exact ⟨(claim_and_release_take_effect db calls _ hall 0 (by decide +kernel) "z" "b").1 "" rfl,
    (claim_and_release_take_effect db calls _ hall 1 (by decide +kernel) "z" "a").2 rfl⟩

/-- The sweeper takes the zone from its dead owner between the two statements of
a claim. The claim succeeds, and its server has not owned the zone at any time. -/
theorem claim_succeeds_without_owning :
    let db := Database.pair ⟨"h", 1, .active, 10, 0⟩ ⟨"h", 2, .active, 10, 20 * second⟩
      ⟨.active, some "a"⟩ (by simp)
    let calls := fun i =>
      if i = 0 then RoomCall.claim "z" "" "b" else .sweep ⟨5 * second, 15 * second⟩
    let c := Choice.clean [] (20 * second)
    let evs := [(0, c), (1, c), (1, c), (1, c), (1, c), (0, c)]
    (exec step (start db calls) evs).answer 0 = some (.status (.ok ())) ∧
      ∀ pre ∈ evs.inits, (exec step (start db calls) pre).store.owner "z" ≠ some "b" := by
  decide +kernel

end SpatialServer.Room
