import SpatialServer.RoomService

/-!
# A sweep on its own

With no failure and nobody else at the tables, a sweep takes the servers it found
dead one by one. While one of them is handled, those still to come are listed
as active, so a zone may go to one of them and move again. What carries the loop
is where a zone may sit: with a dead server only if that server is still to come,
or is being handled and the zone is still on its list.
-/
namespace SpatialServer

open Statements Statements.Prog ServerRepository ProductionSweeper

/-- No statement fails. -/
abbrev Smooth (_ : Database) (_ : Stmt) (c : Choice) : Prop := c.Clean

section Statements

variable {db : Database}

theorem wp_release {z : String} {s : ServerID} (hs : db.owner z = some s)
    {Q : Except StoreError Unit → Database → Prop}
    (hQ : Q (.ok ()) (db.setZone z ⟨.unowned, none⟩ (by simp))) :
    wp Database.exec Smooth (ZoneRepository.release z s) Q db := by
  intro c hc
  have hres : db.releaseZone z s = some (1, db.setZone z ⟨.unowned, none⟩ (by simp)) := by
    rw [Database.releaseZone, if_pos hs]
  rw [Database.exec_releaseZone hc hres]
  exact hQ

theorem wp_claim {z : String} {s : ServerID} (hrow : db.zones.get z ≠ none)
    (hz : db.owner z = none) (hs : (db.servers.get s).isSome) (r : RuntimeID)
    {Q : Except StoreError Unit → Database → Prop}
    (hQ : Q (.ok ()) (db.setZone z ⟨.active, some s⟩ (by simpa using hs))) :
    wp Database.exec Smooth (ZoneRepository.claim z r s) Q db := by
  intro c hc
  obtain ⟨-, hno | hno⟩ | ⟨-, hno⟩ | ⟨hfk, hcase, -⟩ := db.claimZone_cases z s
  · exact absurd hno hrow
  · exact absurd hz hno
  · simp [hno] at hs
  · rw [Database.exec_claimZone hc hcase]
    exact hQ

theorem wp_list {Q : Except StoreError (List NodeDescriptor) → Database → Prop}
    (hQ : ∀ order, Q (.ok ((db.activeServers order).map scanServer)) db) :
    wp Database.exec Smooth ServerRepository.list Q db := by
  intro c hc
  rw [Database.exec_activeServers hc]
  exact hQ c.order

theorem wp_listByServer {s : ServerID} {Q : Except StoreError (List String) → Database → Prop}
    (hQ : ∀ order, Q (.ok (db.zonesOf order s)) db) :
    wp Database.exec Smooth (ZoneRepository.listByServer s) Q db := by
  intro c hc
  rw [Database.exec_zonesOf hc]
  exact hQ c.order

theorem wp_markShutdown {s : ServerID} {row : ServerRow} (hs : db.servers.get s = some row)
    {Q : Except StoreError Unit → Database → Prop}
    (hQ : Q (.ok ()) (db.setServer s { row with status := .shutdown })) :
    wp Database.exec Smooth (ServerRepository.markShutdown s) Q db := by
  intro c hc
  have hres : db.markShutdown s = some (1, db.setServer s { row with status := .shutdown }) := by
    rw [Database.markShutdown, hs]
  rw [Database.exec_markShutdown hc hres]
  exact hQ

end Statements

/-- Where a sweep from `db₀` that found `dead` stands when `ds` are still to
come, and the zones `zs` of the server `d` still to be moved. -/
structure Sweeping (db₀ : Database) (dead ds : List ServerID) (d : ServerID) (zs : List String)
    (db : Database) : Prop where
  marked : ∀ s ∈ dead, s ∉ ds →
    ∃ row, db.servers.get s = some row ∧ row.status = .shutdown
  others : ∀ s, s ∉ dead ∨ s ∈ ds → db.servers.get s = db₀.servers.get s
  rows : ∀ z, db.zones.get z = db₀.zones.get z ∨ (∃ s ∈ dead, db₀.owner z = some s) ∧
    ∃ s, db.zones.get z = some ⟨.active, some s⟩ ∧ db₀.Active s
  owners : ∀ z s, db.owner z = some s → s ∈ dead → s ∈ ds ∨ s = d ∧ z ∈ zs
  todo : ∀ z ∈ zs, db.owner z = some d

namespace Sweeping

variable {db₀ db : Database} {dead ds : List ServerID} {d : ServerID} {zs : List String}

/-- A server that is listed as active was so at first, and is not dead unless
it is still to come. -/
theorem active (h : Sweeping db₀ dead ds d zs db) {s : ServerID} (hs : db.Active s) :
    db₀.Active s ∧ (s ∈ dead → s ∈ ds) := by
  obtain ⟨row, hrow, hactive⟩ := hs
  by_cases hcome : s ∉ dead ∨ s ∈ ds
  · rw [h.others s hcome] at hrow
    exact ⟨⟨row, hrow, hactive⟩, fun hdead => hcome.resolve_left (not_not.mpr hdead)⟩
  · push Not at hcome
    obtain ⟨row', hrow', hdown⟩ := h.marked s hcome.1 hcome.2
    rw [hrow] at hrow'
    cases hrow'
    rw [hactive] at hdown
    cases hdown

theorem orphan (h : Sweeping db₀ dead ds d zs db) {z : String} {s : ServerID}
    (hz : db.owner z = some s) (hs : s ∈ dead) : ∃ s ∈ dead, db₀.owner z = some s := by
  obtain hsame | ⟨horig, -⟩ := h.rows z
  · refine ⟨s, hs, ?_⟩
    rw [← hz, Database.owner, Database.owner, hsame]
  · exact horig

/-- One zone moves. -/
theorem move {z : String} (h : Sweeping db₀ dead ds d (z :: zs) db) (hd : d ∈ dead)
    (hz : z ∉ zs) {t : ServerID} (ht : db.Active t) {db' : Database}
    (hservers : db'.servers = db.servers)
    (hzones : ∀ z', db'.zones.get z' =
      if z' = z then some ⟨.active, some t⟩ else db.zones.get z') :
    Sweeping db₀ dead ds d zs db' := by
  obtain ⟨horig, hcome⟩ := h.active ht
  have howner : ∀ z', z' ≠ z → db'.owner z' = db.owner z' := by
    intro z' hne
    rw [Database.owner, Database.owner, hzones, if_neg hne]
  constructor
  case marked =>
    rw [hservers]
    exact h.marked
  case others =>
    rw [hservers]
    exact h.others
  case rows =>
    intro z'
    by_cases hne : z' = z
    · subst z'
      exact .inr ⟨h.orphan (h.todo z (by simp)) hd, t, by rw [hzones, if_pos rfl], horig⟩
    · rw [hzones, if_neg hne]
      exact h.rows z'
  case owners =>
    intro z' s hs hdead
    by_cases hne : z' = z
    · subst z'
      obtain rfl : t = s := by simpa [Database.owner, hzones] using hs
      exact .inl (hcome hdead)
    · rw [howner z' hne] at hs
      obtain hlater | ⟨rfl, hmem⟩ := h.owners z' s hs hdead
      · exact .inl hlater
      · exact .inr ⟨rfl, (List.mem_cons.mp hmem).resolve_left hne⟩
  case todo =>
    intro z' hz'
    rw [howner z' fun hne => hz (hne ▸ hz')]
    exact h.todo z' (by simp [hz'])

/-- A zone can always be moved while a server that is not dead is active. -/
theorem wp_reassignZone {z : String} (h : Sweeping db₀ dead ds d (z :: zs) db) (hd : d ∈ dead)
    (hz : z ∉ zs) (hlive : ∃ s, db₀.Active s ∧ s ∉ dead) :
    wp Database.exec Smooth (reassignZone d z) (fun _ db' => Sweeping db₀ dead ds d zs db') db := by
  unfold reassignZone
  rw [wp_bind]
  refine wp_release (h.todo z (by simp)) ?_
  rw [wp_bind]
  refine wp_list fun order => ?_
  obtain ⟨s, ⟨row, hrow, hactive⟩, hs⟩ := hlive
  have hne : (db.setZone z ⟨.unowned, none⟩ (by simp)).activeServers order ≠ [] := by
    refine List.ne_nil_of_mem (a := (s, row)) (Database.mem_activeServers.mpr ⟨?_, hactive⟩)
    rw [Database.servers_setZone, h.others s (.inl hs), hrow]
  obtain ⟨⟨t, trow⟩, hmem, hselect⟩ := exists_select_scanned hne
  obtain ⟨ht, htactive⟩ := Database.mem_activeServers.mp hmem
  rw [Database.servers_setZone] at ht
  simp only [List.map_eq_nil_iff, hne, if_false, hselect]
  rw [wp_bind]
  refine wp_claim (by simp) (by simp) (by simp [scanServer, ht]) "" ?_
  refine h.move hd hz ⟨trow, ht, htactive⟩ rfl fun z' => ?_
  simp only [Database.zones_setZone, Dict.get_set]
  split_ifs <;> rfl

/-- A dead server is marked, and its zones are what is to be moved. -/
theorem mark (h : Sweeping db₀ dead (d :: ds) "" [] db) (hd : d ∈ dead) (hnodup : d ∉ ds)
    (row : ServerRow) (order : List String) :
    Sweeping db₀ dead ds d (db.zonesOf order d)
      (db.setServer d { row with status := .shutdown }) := by
  constructor
  case marked =>
    intro s hs hlater
    rw [Database.servers_setServer, Dict.get_set]
    split_ifs with hsd
    · exact ⟨_, rfl, rfl⟩
    · exact h.marked s hs (by simp [hsd, hlater])
  case others =>
    intro s hs
    have hne : s ≠ d := by
      rintro rfl
      exact hs.elim (fun hs => hs hd) hnodup
    rw [Database.servers_setServer, Dict.get_set_ne _ _ hne]
    exact h.others s (hs.imp_right fun hs => by simp [hs])
  case rows => exact h.rows
  case owners =>
    intro z s hs hdead
    obtain hlater | ⟨-, hmem⟩ := h.owners z s hs hdead
    · obtain rfl | hlater := List.mem_cons.mp hlater
      · exact .inr ⟨rfl, Database.mem_zonesOf.mpr hs⟩
      · exact .inl hlater
    · cases hmem
  case todo => exact fun z hz => Database.mem_zonesOf.mp hz

theorem wp_sweepServer (h : Sweeping db₀ dead (d :: ds) "" [] db) (hd : d ∈ dead)
    (hnodup : d ∉ ds) (hdead : ∀ s ∈ dead, db₀.Active s) (hlive : ∃ s, db₀.Active s ∧ s ∉ dead) :
    wp Database.exec Smooth (sweepServer d) (fun _ db' => Sweeping db₀ dead ds "" [] db') db := by
  obtain ⟨row, hrow, -⟩ := hdead d hd
  rw [← h.others d (.inr (by simp))] at hrow
  unfold sweepServer
  rw [wp_bind]
  refine wp_markShutdown hrow ?_
  unfold reassignZonesFor
  rw [wp_bind]
  refine wp_listByServer fun order => ?_
  -- the inner loop, over the zones of the server at hand
  have hmove : ∀ z zs db, (z :: zs).Nodup ∧ Sweeping db₀ dead ds d (z :: zs) db →
      wp Database.exec Smooth (reassignZone d z)
        (fun _ db' => zs.Nodup ∧ Sweeping db₀ dead ds d zs db') db := by
    rintro z zs db ⟨hz, h⟩
    have hz := List.nodup_cons.mp hz
    exact wp_mono (fun _ _ h' => ⟨hz.2, h'⟩) (h.wp_reassignZone hd hz.1 hlive)
  have hloop := wp_collect (I := fun zs db => zs.Nodup ∧ Sweeping db₀ dead ds d zs db) hmove _ _
    ⟨Database.nodup_zonesOf order d, h.mark hd hnodup row order⟩
  exact wp_mono (fun _ _ h' => ⟨h'.2.marked, h'.2.others, h'.2.rows,
    fun z s hs hdead => (h'.2.owners z s hs hdead).imp_right (by simp), by simp⟩) hloop

theorem wp_sweepServers (hdead : ∀ s ∈ dead, db₀.Active s)
    (hlive : ∃ s, db₀.Active s ∧ s ∉ dead) (hnodup : dead.Nodup) :
    wp Database.exec Smooth (collect sweepServer dead)
      (fun _ db' => Sweeping db₀ dead [] "" [] db') db₀ := by
  have hserver : ∀ d ds db, (d :: ds).Nodup ∧ (∀ s ∈ d :: ds, s ∈ dead) ∧
      Sweeping db₀ dead (d :: ds) "" [] db → wp Database.exec Smooth (sweepServer d)
        (fun _ db' => ds.Nodup ∧ (∀ s ∈ ds, s ∈ dead) ∧ Sweeping db₀ dead ds "" [] db') db := by
    rintro d ds db ⟨hd, hds, h⟩
    have hd := List.nodup_cons.mp hd
    refine wp_mono (fun _ _ h' => ⟨hd.2, fun s hs => hds s (by simp [hs]), h'⟩) ?_
    exact h.wp_sweepServer (hds d (by simp)) hd.1 hdead hlive
  have hstart : Sweeping db₀ dead dead "" [] db₀ := by
    refine ⟨fun s hs hno => absurd hs hno, fun _ _ => rfl, fun _ => .inl rfl,
      fun _ _ _ hs => .inl hs, by simp⟩
  have hloop := wp_collect (I := fun ds db => ds.Nodup ∧ (∀ s ∈ ds, s ∈ dead) ∧
    Sweeping db₀ dead ds "" [] db) hserver dead db₀ ⟨hnodup, fun _ hs => hs, hstart⟩
  exact wp_mono (fun _ _ h' => h'.2.2) hloop

end Sweeping

theorem reassignZonesFor_eq (d : ServerID) :
    reassignZonesFor d = .step (.zonesOf d) fun
      | .error _ => .done []
      | .ok zs => collect (reassignZone d) zs := by
  refine congrArg (Prog.step _) (funext fun reply => ?_)
  cases reply <;> rfl

theorem sweepServer_eq (d : ServerID) :
    sweepServer d = .step (.markShutdown d) fun
      | .error _ => .done []
      | .ok _ => reassignZonesFor d := by
  refine congrArg (Prog.step _) (funext fun reply => ?_)
  cases reply <;> rfl

theorem sweep_eq (cfg : SweeperConfig) :
    sweep cfg = .step (.deadServers (cfg.missThreshold.tdiv second)) fun
      | .error _ => .done []
      | .ok dead => collect sweepServer dead := by
  refine congrArg (Prog.step _) (funext fun reply => ?_)
  cases reply <;> rfl

/-- After a sweep without failures every server it found dead is shut down,
every zone of one of them is active with an active server that was not found
dead, and no other row of the zones has changed. -/
theorem sweep_reassigns_every_orphan (cfg : SweeperConfig) (db₀ : Database) (cs : ℕ → Choice)
    (hclean : ∀ n, (cs n).Clean)
    (hlive : ∃ s, db₀.Active s ∧
      s ∉ db₀.deadServers (cs 0).order (cs 0).now (cfg.missThreshold.tdiv second)) :
    let dead := db₀.deadServers (cs 0).order (cs 0).now (cfg.missThreshold.tdiv second)
    let db := (run Database.exec (sweep cfg) db₀ cs).2
    (∀ d ∈ dead, ∃ row, db.servers.get d = some row ∧ row.status = .shutdown) ∧
    (∀ z, (∃ d ∈ dead, db₀.owner z = some d) →
      ∃ s, db.owner z = some s ∧ db.Active s ∧ s ∉ dead) ∧
    (∀ z, (∀ d ∈ dead, db₀.owner z ≠ some d) → db.zones.get z = db₀.zones.get z) ∧
    (∀ z row, db.zones.get z = some row → db₀.zones.get z ≠ some row →
      (row.status = .active ↔ row.serverID ≠ none)) := by
  intro dead db
  have hdead : ∀ s ∈ dead, db₀.Active s := by
    intro s hs
    obtain ⟨row, hrow, hactive, -⟩ := Database.mem_deadServers.mp hs
    exact ⟨row, hrow, hactive⟩
  have hnodup : dead.Nodup := (Dict.nodup_range _ _).filter _
  have hrun : run Database.exec (sweep cfg) db₀ cs =
      run Database.exec (collect sweepServer dead) db₀ fun n => cs (n + 1) := by
    rw [sweep_eq, run, Database.exec_deadServers (hclean 0)]
  have hend : Sweeping db₀ dead [] "" [] db := by
    have h := wp_run (Sweeping.wp_sweepServers hdead hlive hnodup)
      (allowed_of_forall fun _ _ n => hclean (n + 1))
    rw [← hrun] at h
    exact h
  have hgone : ∀ z s, db.owner z = some s → s ∉ dead := fun z s hs hmem => by
    simpa using hend.owners z s hs hmem
  refine ⟨fun d hd => hend.marked d hd (by simp), ?_, ?_, ?_⟩
  · rintro z ⟨d, hd, hz⟩
    obtain hsame | ⟨-, s, hrow, row, hget, hactive⟩ := hend.rows z
    · rw [Database.owner, ← hsame] at hz
      exact absurd hd (hgone z d hz)
    · have howner : db.owner z = some s := Database.owner_of_get hrow
      have hs := hgone z s howner
      exact ⟨s, howner, ⟨row, by rw [hend.others s (.inl hs), hget], hactive⟩, hs⟩
  · intro z hz
    obtain hsame | ⟨⟨d, hd, howner⟩, -⟩ := hend.rows z
    · exact hsame
    · exact absurd howner (hz d hd)
  · intro z row hrow hchanged
    obtain hsame | ⟨-, s, hget, -⟩ := hend.rows z
    · exact absurd (hsame ▸ hrow) hchanged
    · rw [hget] at hrow
      cases hrow
      simp

/-- The zone of the first dead server goes to the second one, and moves on. -/
theorem sweep_reassigns_every_orphan_twice :
    let row : Time → ServerRow := fun lastHeartbeat => ⟨"h", 1, .active, 10, lastHeartbeat⟩
    let db₀ : Database := ⟨Dict.set (Dict.set (Dict.set ∅ "a" (row 0)) "b" (row (20 * second)))
      "c" (row 0), Dict.set ∅ "z" ⟨.active, some "a"⟩, by decide⟩
    let cs := fun _ : ℕ => Choice.clean ["a", "c"] (20 * second)
    let db := (run Database.exec (sweep ⟨5 * second, 15 * second⟩) db₀ cs).2
    ∃ s, db.owner "z" = some s ∧ db.Active s ∧
      s ∉ db₀.deadServers ["a", "c"] (20 * second) ((15 * second).tdiv second) := by
  intro row db₀ cs db
  refine (sweep_reassigns_every_orphan ⟨5 * second, 15 * second⟩ db₀ cs (fun _ => by decide)
    ⟨"b", ⟨row (20 * second), by decide, rfl⟩, by decide +kernel⟩).2.1 "z" ⟨"a", ?_, by decide⟩
  decide +kernel

end SpatialServer
