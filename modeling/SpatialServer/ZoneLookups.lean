import SpatialServer.Interference
import SpatialServer.RoomService

/-!
# Concurrent zone lookups

Lookups of one zone run against each other: look up, list, select, claim, with
no transaction. An owner, once recorded, stays, and that is all a lookup relies
on. A lookup that finds no owner may select another server than the one that
wins the row; it then learns of the conflict and is refused.
-/
namespace SpatialServer

open Runs Statements Statements.Prog ServerRepository RoomServiceServer

/-- What lookups of a zone do to the tables. -/
structure Settles (z : String) (db db' : Database) : Prop where
  servers : db'.servers = db.servers
  row : db.zones.get z ≠ none → db'.zones.get z ≠ none
  owner : ∀ o, db.owner z = some o → db'.owner z = some o

namespace Settles

variable {z : String} {db db' db'' : Database}

theorem refl (db : Database) : Settles z db db := ⟨rfl, id, fun _ => id⟩

theorem trans (h : Settles z db db') (h' : Settles z db' db'') : Settles z db db'' :=
  ⟨h'.servers.trans h.servers, fun hrow => h'.row (h.row hrow),
    fun o ho => h'.owner o (h.owner o ho)⟩

theorem active (h : Settles z db db') {s : ServerID} (hs : db.Active s) : db'.Active s := by
  unfold Database.Active
  rwa [h.servers]

end Settles

/-- A step of a lookup leaves the owner alone, unless it returns with it. -/
def Decides {α : Type} (z : String) (won : α → Prop) (db db' : Database) (o : Option α) : Prop :=
  Settles z db db' ∧ (db'.owner z = db.owner z ∨ ∃ a, o = some a ∧ won a)

theorem Decides.unchanged {α : Type} {z : String} {won : α → Prop} (db : Database)
    (o : Option α) : Decides z won db db o := ⟨.refl db, .inl rfl⟩

/-- What a returned lookup says: the recorded owner, or that another server than
the one selected has won a zone that had no owner at first. -/
def Routed (db₀ : Database) (z : String) :
    Except StatusError LookupZoneResponse → Database → Prop
  | .ok r, db => ∃ o row, db.owner z = some o ∧ db.servers.get o = some row ∧
      r = .of (scanServer (o, row))
  | .error e, db => e = claimFailed z (ZoneRepository.conflict z) ∧ db₀.owner z = none ∧
      ∃ o s, db.owner z = some o ∧ db.Active s ∧ s ≠ o

theorem Routed.settles {db₀ db db' : Database} {z : String}
    {a : Except StatusError LookupZoneResponse} (h : Routed db₀ z a db) (hs : Settles z db db') :
    Routed db₀ z a db' := by
  cases a with
  | ok r =>
    obtain ⟨o, row, ho, hrow, hr⟩ := h
    exact ⟨o, row, hs.owner o ho, by rw [hs.servers, hrow], hr⟩
  | error e =>
    obtain ⟨he, hnull, o, s, ho, hactive, hne⟩ := h
    exact ⟨he, hnull, o, s, hs.owner o ho, hs.active hactive, hne⟩

/-- An existing zone, a server to give it to, and only servers with a name. -/
structure Lookable (db : Database) (z : String) : Prop where
  row : db.zones.get z ≠ none
  active : ∃ s, db.Active s
  names : ∀ s row, db.servers.get s = some row → s ≠ ""

namespace Lookable

variable {db₀ db : Database} {z : String}

/-- The owner is a server with a name. -/
theorem owner_ne (hz : Lookable db₀ z) (h : Settles z db₀ db) {o : ServerID}
    (ho : db.owner z = some o) : o ≠ "" := by
  obtain ⟨row, hget⟩ := Database.exists_server_of_owner ho
  exact hz.names o row (h.servers ▸ hget)

theorem rg_claim (hz : Lookable db₀ z) (h : Settles z db₀ db) {s : ServerID} {row : ServerRow}
    (hs : db₀.servers.get s = some row) (r : RuntimeID) :
    rg Database.exec (fun _ _ c => c.Clean) (Settles z) (Decides z (· = .ok ()))
      (ZoneRepository.claim z r s)
      (fun a db' => Settles z db₀ db' ∧ (a = .ok () ∧ db'.owner z = some s ∨
        a = .error (ZoneRepository.conflict z) ∧ ∃ o, db'.owner z = some o ∧ o ≠ s)) db := by
  intro db₁ h₁ c hc
  have h₁ := h.trans h₁
  obtain ⟨hcase, hnull⟩ | ⟨-, hno⟩ | ⟨hfk, hcase, hnull⟩ := db₁.claimZone_cases z s
  · -- the row is taken, and stays so until the query
    obtain ⟨o, ho⟩ := Option.ne_none_iff_exists'.mp (hnull.resolve_left (h₁.row hz.row))
    rw [Database.exec_claimZone hc hcase]
    refine ⟨.unchanged _ _, ?_⟩
    intro db₂ h₂ c₂ hc₂
    have ho₂ := h₂.owner o ho
    rw [Database.exec_selectOwner hc₂ ((h₁.trans h₂).row hz.row)]
    refine ⟨.unchanged _ _, fun db₃ h₃ => ⟨(h₁.trans h₂).trans h₃, ?_⟩⟩
    have hname := hz.owner_ne (h₁.trans h₂) ho₂
    simp only [ho₂, ZoneRepository.claimReply]
    split_ifs with hconflict
    · exact .inr ⟨rfl, o, h₃.owner o ho₂, hconflict.2⟩
    · have hsame : o = s := by simpa [hname] using hconflict
      exact .inl ⟨rfl, hsame ▸ h₃.owner o ho₂⟩
  · rw [h₁.servers, hs] at hno
    cases hno
  · rw [Database.exec_claimZone hc hcase]
    have hset : Settles z db₁ (db₁.setZone z ⟨.active, some s⟩ hfk) :=
      ⟨rfl, by simp, by simp [hnull]⟩
    refine ⟨⟨hset, .inr ⟨.ok (), rfl, rfl⟩⟩, fun db₂ h₂ => ?_⟩
    exact ⟨(h₁.trans hset).trans h₂, .inl ⟨rfl, h₂.owner s (by simp)⟩⟩

theorem rg_allocate (hz : Lookable db₀ z) (h : Settles z db₀ db) (hnull : db₀.owner z = none) :
    rg Database.exec (fun _ _ c => c.Clean) (Settles z) (Decides z fun a => ∃ r, a = .ok r)
      (allocate z) (Routed db₀ z) db := by
  intro db₁ h₁ c hc
  have h₁ := h.trans h₁
  obtain ⟨s, row, hrow⟩ := hz.active
  have hne : db₁.activeServers c.order ≠ [] := by
    refine List.ne_nil_of_mem (a := (s, row)) (Database.mem_activeServers.mpr ?_)
    rwa [h₁.servers]
  obtain ⟨⟨t, trow⟩, hmem, hselect⟩ := exists_select_scanned hne
  obtain ⟨ht, hactive⟩ := Database.mem_activeServers.mp hmem
  rw [h₁.servers] at ht
  rw [Database.exec_activeServers hc]
  refine ⟨.unchanged _ _, ?_⟩
  simp only [pure_eq, bind_done, List.map_eq_nil_iff, hne, if_false, hselect]
  refine rg_bind Settles.refl (rg_mono ?_ ?_ (hz.rg_claim h₁ ht ""))
  · rintro db db' o ⟨hset, hsame | ⟨a, rfl, rfl⟩⟩
    · exact ⟨hset, .inl hsame⟩
    · exact ⟨hset, .inr ⟨.ok (.of (scanServer (t, trow))), rfl, _, rfl⟩⟩
  · rintro a db₂ ⟨h₂, ⟨rfl, ho⟩ | ⟨rfl, o, ho, hne⟩⟩
    · have hrouted : Routed db₀ z (.ok (.of (scanServer (t, trow)))) db₂ :=
        ⟨t, trow, ho, by rw [h₂.servers, ht], rfl⟩
      exact fun _ => hrouted.settles
    · have hrouted : Routed db₀ z (.error (claimFailed z (ZoneRepository.conflict z))) db₂ :=
        ⟨rfl, hnull, o, t, ho, h₂.active ⟨trow, ht, hactive⟩, hne.symm⟩
      exact fun _ => hrouted.settles

theorem rg_lookupZone (hz : Lookable db₀ z) (h : Settles z db₀ db) :
    rg Database.exec (fun _ _ c => c.Clean) (Settles z) (Decides z fun a => ∃ r, a = .ok r)
      (lookupZone z) (Routed db₀ z) db := by
  intro db₁ h₁ c hc
  have h₁ := h.trans h₁
  rw [Database.exec_selectOwner hc (h₁.row hz.row)]
  refine ⟨.unchanged _ _, ?_⟩
  simp only [pure_eq, bind_done]
  cases ho : db₁.owner z with
  | none =>
    have hnull : db₀.owner z = none := by
      by_contra hsome
      obtain ⟨o, ho'⟩ := Option.ne_none_iff_exists'.mp hsome
      rw [h₁.owner o ho'] at ho
      cases ho
    exact hz.rg_allocate h₁ hnull
  | some o =>
    simp only [ZoneRepository.lookupReply, hz.owner_ne h₁ ho, if_false]
    intro db₂ h₂ c₂ hc₂
    obtain ⟨row, hrow⟩ := Database.exists_server_of_owner (h₂.owner o ho)
    rw [Database.exec_selectServer hc₂ hrow]
    refine ⟨.unchanged _ _, fun db₃ h₃ => ?_⟩
    exact ⟨o, row, h₃.owner o (h₂.owner o ho), by rw [h₃.servers, hrow], rfl⟩

end Lookable

theorem within_claim (z : String) (r : RuntimeID) (s : ServerID) :
    (ZoneRepository.claim z r s).Within 2 := by
  refine ⟨by omega, fun reply => ?_⟩
  cases reply with
  | error err => trivial
  | ok n =>
    cases n with
    | zero => exact ⟨by omega, fun _ => trivial⟩
    | succ n => trivial

theorem within_allocate (z : String) : (allocate z).Within 3 := by
  refine ⟨by omega, fun reply => ?_⟩
  cases reply with
  | error err => trivial
  | ok rows =>
    simp only [pure_eq, bind_done]
    split_ifs
    · trivial
    · split
      · trivial
      · refine Within.bind (n := 0) (within_claim z "" _) fun a => ?_
        cases a <;> trivial

/-- A lookup issues at most five statements. -/
theorem within_lookupZone (z : String) : (lookupZone z).Within 5 := by
  refine ⟨by omega, fun reply => ?_⟩
  simp only [pure_eq, bind_done]
  cases ZoneRepository.lookupReply z reply with
  | error err => exact (within_allocate z).mono (by omega)
  | ok o =>
    refine ⟨by omega, fun row => ?_⟩
    cases row with
    | ok row => trivial
    | error e => cases e <;> exact within_allocate z

namespace Room

variable {db₀ : Database} {z : String}

/-- What holds while lookups of the zone are in progress. -/
structure Lookups (db₀ : Database) (z : String) (p : Room) : Prop where
  threads : ∀ i, rg Database.exec (fun _ _ c => c.Clean) (Settles z)
    (Decides z fun a => ∃ r, a = .route (.ok r)) (p.threads i)
    (fun a db => ∃ x, a = .route x ∧ Routed db₀ z x db) p.store
  winner : p.store.owner z = db₀.owner z ∨ ∃ i r, p.answer i = some (.route (.ok r))

theorem lookups_start (hz : Lookable db₀ z) :
    Lookups db₀ z (start db₀ fun _ => .lookupZone z) := by
  refine ⟨fun i => rg_bind Settles.refl (rg_mono ?_ ?_ (hz.rg_lookupZone (.refl db₀))), .inl rfl⟩
  · rintro db db' o ⟨hset, hsame | ⟨a, rfl, r, rfl⟩⟩
    · exact ⟨hset, .inl hsame⟩
    · exact ⟨hset, .inr ⟨_, rfl, r, rfl⟩⟩
  · exact fun a _ ha _ hs => ⟨a, rfl, ha.settles hs⟩

theorem Lookups.step {p : Room} (h : Lookups db₀ z p) {ev : ℕ × Choice} (hev : ev.2.Clean) :
    Lookups db₀ z (step p ev) := by
  have hallow : p.Allows (fun _ _ c => c.Clean) ev := fun _ _ => hev
  constructor
  case threads =>
    exact Pool.rg_step Settles.refl (fun _ _ _ => .trans) (fun _ _ _ hd => hd.1) h.threads hallow
  case winner =>
    obtain hsame | ⟨hset, howner | ⟨a, ha, r, rfl⟩⟩ :=
      Pool.guar_step Settles.refl (h.threads ev.1) hallow
    · rw [show Room.step p ev = p from hsame]
      exact h.winner
    · obtain hfirst | ⟨i, r, hi⟩ := h.winner
      · exact .inl (howner.trans hfirst)
      · exact .inr ⟨i, r, Pool.result_step_of_some hi ev⟩
    · exact .inr ⟨ev.1, r, ha⟩

theorem lookups_exec (hz : Lookable db₀ z) {evs : List (ℕ × Choice)}
    (hclean : ∀ ev ∈ evs, ev.2.Clean) :
    Lookups db₀ z (exec step (start db₀ fun _ => .lookupZone z) evs) := by
  have hall : Along step (fun _ ev => ev.2.Clean) (start db₀ fun _ => .lookupZone z) evs :=
    Along.of_forall_mem fun _ ev hev => hclean ev hev
  exact exec_invariant (Lookups db₀ z) (fun _ _ h hev => h.step hev) (lookups_start hz) hall

/-- Lookups of one zone return, and those that succeed agree on the recorded
owner. A lookup is refused only for a conflict over a zone that had no owner at
first, while a server other than the new owner is active, and then another
lookup has succeeded. -/
theorem lookups_agree_or_conflict (hz : Lookable db₀ z) (evs : List (ℕ × Choice))
    (hclean : ∀ ev ∈ evs, ev.2.Clean) (i : ℕ) :
    let p := exec step (start db₀ fun _ => .lookupZone z) evs
    (5 ≤ evs.countP (fun ev => ev.1 = i) → (p.answer i).isSome) ∧
    ∀ a, p.answer i = some a →
      (∃ o row, p.store.owner z = some o ∧ p.store.servers.get o = some row ∧
        a = .route (.ok (.of (scanServer (o, row))))) ∨
      a = .route (.error (claimFailed z (ZoneRepository.conflict z))) ∧
        db₀.owner z = none ∧
        (∃ o s, p.store.owner z = some o ∧ p.store.Active s ∧ s ≠ o) ∧
        ∃ j r, p.answer j = some (.route (.ok r)) := by
  intro p
  have hp : Lookups db₀ z p := lookups_exec hz hclean
  constructor
  · intro hcount
    have hwithin : (RoomCall.lookupZone z).prog.Within (5 + 0) :=
      Within.bind (within_lookupZone z) fun _ => trivial
    exact Pool.isSome_result_of_within (i := i) hwithin hcount
  · intro a ha
    have hrg := hp.threads i
    rw [result_eq_some.mp ha] at hrg
    obtain ⟨x, rfl, hx⟩ := hrg p.store (.refl _)
    cases x with
    | ok r =>
      obtain ⟨o, row, ho, hrow, rfl⟩ := hx
      exact .inl ⟨o, row, ho, hrow, rfl⟩
    | error e =>
      obtain ⟨rfl, hnull, o, s, ho, hs, hne⟩ := hx
      refine .inr ⟨rfl, hnull, ⟨o, s, ho, hs, hne⟩, hp.winner.resolve_left ?_⟩
      rw [ho, hnull]
      simp

theorem lookups_agree_or_conflict_race :
    let row : ServerRow := ⟨"h", 1, .active, 10, 0⟩
    let db := Database.pair row row ⟨.unowned, none⟩ (by simp)
    let evs := [(0, Choice.clean [] 0), (1, Choice.clean [] 0), (0, Choice.clean ["a"] 0),
      (1, Choice.clean ["b"] 0), (0, Choice.clean [] 0), (1, Choice.clean [] 0),
      (1, Choice.clean [] 0)]
    let p := exec step (start db fun _ => .lookupZone "z") evs
    p.answer 1 = some (.route (.error (claimFailed "z" (ZoneRepository.conflict "z")))) ∧
      ∃ j r, p.answer j = some (.route (.ok r)) := by
  intro row db evs p
  have hz : Lookable db "z" := by
    refine ⟨by decide, ⟨"a", row, by decide, rfl⟩, fun s r hs => ?_⟩
    simp only [db, Database.pair, Dict.get_set, Dict.get_empty] at hs
    split_ifs at hs with hb ha
    · simp [hb]
    · simp [ha]
  have hclean : ∀ ev ∈ evs, ev.2.Clean := by decide
  have hanswer : p.answer 1 =
      some (.route (.error (claimFailed "z" (ZoneRepository.conflict "z")))) := by
    decide +kernel
  obtain ⟨o, r, -, -, hr⟩ | ⟨-, -, -, hwin⟩ :=
    (lookups_agree_or_conflict hz evs hclean 1).2 _ hanswer
  · cases hr
  · exact ⟨hanswer, hwin⟩

/-- Two lookups find the zone without owner and select different servers: one of
them is refused. And a server without a name counts as no owner, so that a
second lookup succeeds with another server. -/
theorem lookups_disagree :
    let row : ServerRow := ⟨"h", 1, .active, 10, 0⟩
    let c := fun order => Choice.clean order 0
    let race := exec step (start (Database.pair row row ⟨.unowned, none⟩ (by simp))
      fun _ => .lookupZone "z")
        [(0, c []), (1, c []), (0, c ["a"]), (1, c ["b"]), (0, c []), (1, c []), (1, c [])]
    let nameless : Database :=
      ⟨Dict.set (Dict.set ∅ "" row) "b" row, Dict.set ∅ "z" ⟨.unowned, none⟩, by decide⟩
    let misled := exec step (start nameless fun _ => .lookupZone "z")
        [(0, c []), (0, c [""]), (0, c []), (1, c []), (1, c ["b"]), (1, c []), (1, c [])]
    (race.answer 0 = some (.route (.ok ⟨"a", "h:1"⟩)) ∧
      race.answer 1 = some (.route (.error ⟨.internal, "claim zone z: zone z: conflict"⟩))) ∧
    (misled.answer 0 = some (.route (.ok ⟨"", "h:1"⟩)) ∧
      misled.answer 1 = some (.route (.ok ⟨"b", "h:1"⟩)) ∧ misled.store.owner "z" = some "") := by
  decide +kernel

end Room

end SpatialServer
