import SpatialServer.Assigning

/-!
# Routes to active servers

A lookup answers with a server whose row it has read. A listing reads the active
servers only; the row of a zone's owner is read whatever its status is. So the
answer depends on the owner being active, when it is read and until its row is.
The sweeper marks a server before it takes the zones away, and may not come to
take them: in between, lookups are routed to a server that is shut down.
-/
namespace SpatialServer

open Runs Statements Statements.Prog ServerRepository RoomServiceServer

/-- An active server stays active unless it is marked. -/
theorem Database.Active.exec {db : Database} {c : Choice} {op : Stmt} {s : ServerID}
    (h : db.Active s) (hop : op = .markShutdown s → c.outcome = .failed) :
    (db.exec c op).2.Active s := by
  obtain ⟨row, hrow, hactive⟩ := h
  obtain hsame | ⟨id, new, hset, hchange⟩ := db.exec_servers c op
  · exact ⟨row, by rw [hsame, hrow], hactive⟩
  · by_cases hid : s = id
    · subst hid
      obtain hkept | ⟨-, hnew⟩ | hmark := hchange.status row hrow
      · exact ⟨new, by rw [hset]; simp, hkept.trans hactive⟩
      · exact ⟨new, by rw [hset]; simp, hnew⟩
      · -- the mark is not carried out
        have hfail := hop hmark
        subst hmark
        refine ⟨row, ?_, hactive⟩
        change (c.write db (db.markShutdown s)).2.servers.get s = some row
        simp [Choice.write, hfail, hrow]
    · exact ⟨row, by rw [hset]; simp [hid, hrow], hactive⟩

/-- A lookup finds the owner of the zone active, and the owner is not marked before
the lookup has read its row. -/
structure FindsOwnerActive (room : Room) (ev : ℕ × Choice) : Prop where
  owner : ∀ z, room.threads ev.1 = (RoomCall.lookupZone z).prog →
    ∀ s, room.store.owner z = some s → room.store.Active s
  mark : ∀ d, (room.threads ev.1).next = some (.markShutdown d) → ev.2.outcome ≠ .failed →
    ∀ i, (room.threads i).next ≠ some (.selectServer d)

theorem findsOwnerActive_of_next {room : Room} {ev : ℕ × Choice} (op : Stmt)
    (hnext : (room.threads ev.1).next = some op)
    (howner : ∀ z, op = .selectOwner z → ∀ s, room.store.owner z = some s → room.store.Active s)
    (hmark : ∀ d, op = .markShutdown d → ∀ i, (room.threads i).next ≠ some (.selectServer d)) :
    FindsOwnerActive room ev where
  owner z hstart := by
    rw [hstart] at hnext
    exact howner z (Option.some.inj hnext).symm
  mark d hd _ := hmark d (Option.some.inj (hnext.symm.trans hd))

/-- The response is what one of the call's own statements read in the row of an
active server. -/
def ReadActive (room : Room) (i : ℕ) (evs : List (ℕ × Choice)) (resp : LookupZoneResponse) :
    Prop :=
  ∃ pre c post s row, evs = pre ++ (i, c) :: post ∧
    (((exec Room.step room pre).threads i).next = some (.selectServer s) ∨
      ((exec Room.step room pre).threads i).next = some .activeServers) ∧
    (exec Room.step room pre).store.servers.get s = some row ∧ row.status = .active ∧
    resp = .of (scanServer (s, row))

theorem ReadActive.append {room : Room} {i : ℕ} {evs : List (ℕ × Choice)}
    {resp : LookupZoneResponse} (h : ReadActive room i evs resp) (evs' : List (ℕ × Choice)) :
    ReadActive room i (evs ++ evs') resp := by
  obtain ⟨pre, c, post, s, row, rfl, hread⟩ := h
  exact ⟨pre, c, post ++ evs', s, row, by simp, hread⟩

/-! ## The stages of a lookup -/

def afterOwner (z : String) : Except StoreError ServerID → Tx Answer
  | .error _ => do return .route (← allocate z)
  | .ok o => do
    match ← ServerRepository.get o with
    | .error _ => return .route (← allocate z)
    | .ok info => return .route (.ok (.of info))

theorem prog_lookupZone (z : String) :
    (RoomCall.lookupZone z).prog =
      .step (.selectOwner z) fun r => afterOwner z (ZoneRepository.lookupReply z r) := by
  refine congrArg (Prog.step _) (funext fun r => ?_)
  simp only [pure_eq, bind_done]
  rcases ZoneRepository.lookupReply z r with err | o
  · rfl
  · refine congrArg (Prog.step _) (funext fun r => ?_)
    rcases r with (_ | err) | row <;> rfl

/-- Where a lookup stands, with the responses it may give by now. -/
inductive Routing (z : String) (db : Database) (read : LookupZoneResponse → Prop) :
    Tx Answer → Prop
  | start : Routing z db read (RoomCall.lookupZone z).prog
  | owned {o : ServerID} (h : db.Active o) : Routing z db read (afterOwner z (.ok o))
  | allocating : Routing z db read (do return .route (← allocate z))
  | settled {q : Tx Answer} (h : q.Returns fun a => ∀ resp, a = .route (.ok resp) → read resp) :
      Routing z db read q

theorem owner_of_lookupReply {db : Database} {c : Choice} {z : String} {o : ServerID}
    (h : ZoneRepository.lookupReply z (db.exec c (.selectOwner z)).1 = .ok o) :
    db.owner z = some o := by
  change ZoneRepository.lookupReply z (c.readRow ((db.zones.get z).map ZoneRow.serverID)) =
    .ok o at h
  unfold ZoneRepository.lookupReply at h
  split at h
  · cases h
  · cases h
  · cases h
  · next hread =>
    split_ifs at h
    cases h
    obtain ⟨row, hrow, howner⟩ := Option.map_eq_some_iff.mp (Choice.eq_some_of_readRow hread)
    rw [Database.owner_of_get hrow, howner]

theorem get_of_selectServer {db : Database} {c : Choice} {s : ServerID}
    {row : ServerID × ServerRow} (h : (db.exec c (.selectServer s)).1 = .ok row) :
    ∃ r, db.servers.get s = some r ∧ (s, r) = row :=
  Option.map_eq_some_iff.mp (Choice.eq_some_of_readRow h)

/-- While others run, a lookup that has read an owner keeps it active. -/
theorem Routing.keep {room : Room} {ev : ℕ × Choice} {i : ℕ} {z : String} {q : Tx Answer}
    {read read' : LookupZoneResponse → Prop} (h : Routing z room.store read q)
    (hq : room.threads i = q) (hev : FindsOwnerActive room ev)
    (himp : ∀ resp, read resp → read' resp) : Routing z (room.step ev).store read' q := by
  cases h with
  | start => exact .start
  | allocating => exact .allocating
  | settled h => exact .settled (h.mono fun a ha resp hresp => himp resp (ha resp hresp))
  | @owned o h =>
    refine .owned ?_
    cases hthread : room.threads ev.1 with
    | done a => rwa [Room.step, Pool.step_of_done hthread]
    | step op k =>
      rw [Room.step, Pool.step_of_step hthread]
      refine h.exec fun hop => ?_
      by_contra hout
      have hnext : (room.threads ev.1).next = some op := by rw [hthread]; rfl
      exact hev.mark o (hop ▸ hnext) hout i (by rw [hq]; rfl)

section Lookups

variable {room : Room} {evs : List (ℕ × Choice)} {i : ℕ} {z : String} {c : Choice}

/-- What the next statement reads in an active row may be answered from now on. -/
theorem ReadActive.last {s : ServerID} {row : ServerRow}
    (hnext : ((exec Room.step room evs).threads i).next = some (.selectServer s) ∨
      ((exec Room.step room evs).threads i).next = some .activeServers)
    (hrow : (exec Room.step room evs).store.servers.get s = some row)
    (hactive : row.status = .active) :
    ReadActive room i (evs ++ [(i, c)]) (.of (scanServer (s, row))) :=
  ⟨evs, c, [], s, row, rfl, hnext, hrow, hactive, rfl⟩

theorem Routing.own {op : Stmt} {k : op.Reply → Tx Answer}
    (hthread : (exec Room.step room evs).threads i = .step op k)
    (hev : FindsOwnerActive (exec Room.step room evs) (i, c))
    (h : Routing z (exec Room.step room evs).store (ReadActive room i evs) (.step op k)) :
    Routing z ((exec Room.step room evs).store.exec c op).2
      (ReadActive room i (evs ++ [(i, c)])) (k ((exec Room.step room evs).store.exec c op).1) := by
  have hlast := @ReadActive.last room evs i c
  generalize hq : Prog.step op k = q at h
  generalize exec Room.step room evs = now at *
  have hnext : (now.threads i).next = some op := by rw [hthread]; rfl
  cases h with
  | start =>
    have howner := hev.owner z (hthread.trans hq)
    rw [prog_lookupZone] at hq
    cases hq
    change Routing z now.store _ (afterOwner z (ZoneRepository.lookupReply z _))
    rcases hfound : ZoneRepository.lookupReply z (now.store.exec c (.selectOwner z)).1 with err | o
    · exact .allocating
    · exact .owned (howner o (owner_of_lookupReply hfound))
  | @owned o hactive =>
    cases hq
    rcases hreply : (now.store.exec c (.selectServer o)).1 with (_ | err) | row
    · exact .allocating
    · exact .allocating
    · obtain ⟨r, hr, rfl⟩ := get_of_selectServer hreply
      obtain ⟨r', hr', hstatus⟩ := hactive
      obtain rfl := Option.some.inj (hr'.symm.trans hr)
      refine .settled fun resp hresp => ?_
      cases hresp
      exact hlast (.inl hnext) hr hstatus
  | allocating =>
    rw [allocate_eq_assign, assign_eq] at hq
    cases hq
    rcases hreply : (now.store.exec c .activeServers).1 with err | (_ | ⟨row, rows⟩)
    · exact .settled fun resp hresp => by cases hresp
    · exact .settled fun resp hresp => by cases hresp
    · have hrow : row ∈ now.store.activeServers c.order :=
        Choice.mem_of_readRows hreply List.mem_cons_self
      obtain ⟨hr, hstatus⟩ := Database.mem_activeServers.mp hrow
      refine .settled (Returns.bind (Returns.bind (Returns.of_forall (fun claimed => ?_) _)))
      rcases claimed with err | _
      · exact fun resp hresp => by cases hresp
      · intro resp hresp
        cases hresp
        exact hlast (.inr hnext) hr hstatus
  | settled h =>
    subst hq
    refine .settled (Returns.mono (fun a ha resp hresp => ?_) (h _))
    exact (ha resp hresp).append _

end Lookups

/-- If every lookup finds the owner of its zone active, and nobody is marked between
a lookup's reading of the owner and of its row, then every lookup that answers has
read its answer in the row of an active server, in every interleaving. -/
theorem lookups_route_to_active (db₀ : Database) (calls : ℕ → RoomCall)
    (evs : List (ℕ × Choice)) (h : Along Room.step FindsOwnerActive (.start db₀ calls) evs)
    (i : ℕ) (z : String) (hcall : calls i = .lookupZone z) (resp : LookupZoneResponse)
    (hanswer : (exec Room.step (.start db₀ calls) evs).answer i = some (.route (.ok resp))) :
    ReadActive (.start db₀ calls) i evs resp := by
  have hrouting := Pool.thread_invariant (fun evs q => Routing z
    (exec Room.step (.start db₀ calls) evs).store (ReadActive (.start db₀ calls) i evs) q)
    (by rw [show (Room.start db₀ calls).threads i = _ from congrArg RoomCall.prog hcall]
        exact .start)
    (fun evs ev q hq hev hrouting => by
      rw [exec_append, exec_cons, exec_nil]
      exact hrouting.keep hq hev fun resp hread => hread.append [ev])
    (fun evs c op k hthread hev hrouting => by
      rw [exec_append, exec_cons, exec_nil, Room.step, Pool.step_of_step hthread]
      exact hrouting.own hthread hev) h
  rw [result_eq_some.mp hanswer] at hrouting
  generalize hq : Prog.done (Answer.route (.ok resp)) = q at hrouting
  cases hrouting with
  | start | owned | allocating => cases hq
  | settled h =>
    subst hq
    exact h resp rfl

/-- The server that is marked owns nothing. -/
theorem lookups_route_to_active_idle :
    let db₀ := Database.pair ⟨"h", 1, .active, 10, 15 * second⟩ ⟨"h", 2, .active, 10, 0⟩
      ⟨.active, some "a"⟩ (by simp)
    let calls : ℕ → RoomCall := fun i =>
      if i = 0 then .sweep ⟨5 * second, 15 * second⟩ else .lookupZone "z"
    let c := Choice.clean [] (20 * second)
    ReadActive (.start db₀ calls) 1 [(0, c), (0, c), (1, c), (1, c)] ⟨"a", "h:1"⟩ := by
  intro db₀ calls c
  refine lookups_route_to_active db₀ calls [(0, c), (0, c), (1, c), (1, c)] ?_ 1 "z" rfl
    ⟨"a", "h:1"⟩ (by decide +kernel)
  refine ⟨?_, ?_, ?_, ?_, trivial⟩
  · refine findsOwnerActive_of_next (.deadServers 15) (by decide +kernel) ?_ ?_ <;>
      exact fun _ h => by cases h
  · refine findsOwnerActive_of_next (.markShutdown "b") (by decide +kernel)
      (fun _ h => by cases h) fun d _ i => ?_
    by_cases hi : i = 0
    · subst hi
      exact fun h => by cases h
    · rw [Room.step, Pool.threads_step_ne _ _ hi, Room.start]
      simp only [calls, if_neg hi, prog_lookupZone]
      exact fun h => by cases h
  · refine findsOwnerActive_of_next (.selectOwner "z") (by decide +kernel) ?_
      (fun _ h => by cases h)
    rintro z hz s hs
    cases hz
    cases hs
    exact ⟨⟨"h", 1, .active, 10, 15 * second⟩, by decide +kernel, rfl⟩
  · refine findsOwnerActive_of_next (.selectServer "a") (by decide +kernel) ?_ ?_ <;>
      exact fun _ h => by cases h

/-- The lookup comes between the mark and the release. It is routed to the server
that is shut down. -/
theorem lookup_routed_to_shutdown :
    let db₀ := Database.pair ⟨"h", 1, .active, 10, 0⟩ ⟨"h", 2, .active, 10, 15 * second⟩
      ⟨.active, some "a"⟩ (by simp)
    let calls : ℕ → RoomCall := fun i =>
      if i = 0 then .sweep ⟨5 * second, 15 * second⟩ else .lookupZone "z"
    let c := Choice.clean [] (20 * second)
    let evs := [(0, c), (0, c), (1, c), (1, c)]
    (exec Room.step (.start db₀ calls) evs).answer 1 = some (.route (.ok ⟨"a", "h:1"⟩)) ∧
      ¬ReadActive (.start db₀ calls) 1 evs ⟨"a", "h:1"⟩ := by
  intro db₀ calls c evs
  refine ⟨by decide +kernel, ?_⟩
  rintro ⟨pre, c', post, s, row, hsplit, hnext, hrow, hactive, -⟩
  have hserver : ((exec Room.step (.start db₀ calls) [(0, c), (0, c), (1, c)]).store.servers.get
      "a").map ServerRow.status = some .shutdown := by decide +kernel
  -- the last statement is the only one of the lookup that reads a server
  rcases pre with _ | ⟨e₀, _ | ⟨e₁, _ | ⟨e₂, _ | ⟨e₃, pre⟩⟩⟩⟩ <;>
    simp only [evs, List.nil_append, List.cons_append, List.cons.injEq, Prod.mk.injEq,
      zero_ne_one, false_and, and_false, List.nil_eq, List.append_eq_nil_iff, reduceCtorEq] at hsplit
  · obtain ⟨rfl, rfl, -⟩ := hsplit
    rcases hnext with hnext | hnext <;> cases hnext
  · obtain ⟨rfl, rfl, rfl, -⟩ := hsplit
    rcases hnext with hnext | hnext <;> cases hnext
    rw [hrow, Option.map_some, hactive] at hserver
    cases hserver

end SpatialServer
