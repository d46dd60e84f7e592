import SpatialServer.Noninterference
import SpatialServer.Patrol
import SpatialServer.Removal

/-!
# What moves an entity

An entity is elsewhere after a call for one of three reasons: the call has put an entity
under its identifier, it has dispatched a position of its client, or it has simulated its
behaviour. The loop simulates once a tick, for the time since the last tick but for no
more than a quarter of a second. So a client's entity stands where its client has last
put it, and an entity with a behaviour keeps to its speed, whatever is called in between.
-/
namespace SpatialServer

open Runs

theorem Entity.onSimulate_eq_self {N : Numerics} {seed : ℤ} {dt : Duration} {e : Entity}
    (h : (e.onSimulate N seed dt).lifecycle = none) : e.onSimulate N seed dt = e := by
  unfold Entity.onSimulate at h ⊢
  split at h
  · cases h
  · rfl

namespace Store

variable {s s' : Store} {id : EntityID}

theorem exists_entityOf_addEntity (s : Store) (e : Entity) : ∃ sim,
    (s.addEntity e).entityOf e.id = some (deriveSpace sim { e with zoneID := targetZone e }) := by
  obtain ⟨sim, -, heq⟩ := s.exists_addEntity_eq e
  refine ⟨sim, ?_⟩
  rw [heq]
  simp [entityOf, placeEntity]

/-- No object changes, and the map may lose the entity. -/
theorem entityOf_eq_or_none (ho : s'.objects = s.objects)
    (he : s'.entities.get id = s.entities.get id ∨ s'.entities.get id = none) :
    s'.entityOf id = s.entityOf id ∨ s'.entityOf id = none := by
  unfold entityOf
  rw [ho]
  obtain he | he := he
  · exact .inl (by rw [he])
  · exact .inr (by rw [he]; rfl)

theorem entityOf_removeEntity (s : Store) (key : EntityID) :
    (s.removeEntity key).entityOf id = s.entityOf id ∨ (s.removeEntity key).entityOf id = none := by
  by_cases hid : id = key
  · subst hid
    unfold removeEntity
    split
    · exact .inl rfl
    · exact .inr (by simp [entityOf])
  · refine entityOf_eq_or_none ?_ (.inl (s.entities_removeEntity_ne hid))
    simp only [removeEntity]
    split
    · rfl
    · split <;> rfl

theorem entityOf_releaseZone {zid : ZoneID} (hs : s.releaseZone zid = .ok s') :
    s'.entityOf id = s.entityOf id ∨ s'.entityOf id = none := by
  unfold releaseZone at hs
  split_ifs at hs
  cases hs
  refine entityOf_eq_or_none rfl ?_
  dsimp only
  rw [Dict.get_delAll]
  split_ifs
  · exact .inr rfl
  · exact .inl rfl

theorem entityOf_assignZone {z : Zone} (hs : s.assignZone z = .ok s') :
    s'.entityOf id = s.entityOf id := by
  unfold assignZone at hs
  split_ifs at hs
  cases hs
  rfl

theorem entityOf_foldl_expire (s : Store) (ids : List EntityID) :
    (ids.foldl expire s).entityOf id = s.entityOf id ∨
      (ids.foldl expire s).entityOf id = none := by
  refine entityOf_eq_or_none (s.foldl_expire_objects ids) ?_
  have hentry := congrArg Prod.fst (s.entry_foldl_expire ids id)
  split_ifs at hentry
  · exact .inr hentry
  · exact .inl hentry

@[simp] theorem entityOf_moveOnGrid (s : Store) (key : EntityID) (pos : Vector3) :
    (s.moveOnGrid key pos).entityOf id = s.entityOf id := by
  have hmaps := SameMaps.moveOnGrid s key pos
  rw [entityOf, entityOf, hmaps.entities, objects_moveOnGrid]

theorem entityOf_setObject_self {r : ℕ} (hr : s.entities.get id = some r) (e : Entity) :
    (s.setObject r e).entityOf id = some e := by
  simp [entityOf, setObject, hr]

/-- Entities of other names are other objects. -/
theorem entityOf_setObject_ne (hn : Named s) {key : EntityID} {r : ℕ}
    (hr : s.entities.get key = some r) (e : Entity) (hne : id ≠ key) :
    (s.setObject r e).entityOf id = s.entityOf id := by
  refine Option.map_congr fun q hq => ?_
  have hqr : q ≠ r := by
    rintro rfl
    exact hne ((hn.object id q hq).2.symm.trans (hn.object key q hr).2)
  exact Heap.cell_write_ne _ _ hqr

theorem entityOf_reposition_ne (hn : Named s) {key : EntityID} (hne : id ≠ key) (pos : Vector3) :
    (s.reposition key pos).entityOf id = s.entityOf id := by
  unfold reposition
  split
  · rfl
  · next r hr => rw [entityOf_moveOnGrid, entityOf_setObject_ne hn hr _ hne]

theorem entityOf_reposition_self (pos : Vector3) : (s.reposition id pos).entityOf id =
    (s.entityOf id).map fun e => { e with position := pos } := by
  unfold reposition
  split
  · next hr => simp [entityOf, hr]
  · next r hr =>
    rw [entityOf_moveOnGrid, entityOf_setObject_self hr]
    simp [entityOf, hr]

section Simulate

variable {N : Numerics} {dt : Duration} {seed : EntityID → ℤ}

theorem named_simulated (hn : Named s) (key : EntityID) : Named (s.simulated N dt seed key) :=
  (AgreeBut.simulated_right (Set.mem_univ key) hn).named hn

theorem entityOf_simulated_ne (hn : Named s) {key : EntityID} (hne : id ≠ key) :
    (s.simulated N dt seed key).entityOf id = s.entityOf id := by
  unfold simulated
  split
  · rfl
  · next r hr =>
    dsimp only
    split_ifs
    · rfl
    · exact entityOf_setObject_ne hn hr _ hne
    · rw [entityOf_moveOnGrid, entityOf_setObject_ne hn hr _ hne]

theorem entityOf_simulated_self : (s.simulated N dt seed id).entityOf id =
    (s.entityOf id).map (Entity.onSimulate N (seed id) dt) := by
  unfold simulated
  split
  · next hr => simp [entityOf, hr]
  · next r hr =>
    have hof : s.entityOf id = some (s.objects.cell r) := by simp [entityOf, hr]
    dsimp only
    split_ifs with hlife
    · rw [hof, Option.map_some, Entity.onSimulate, Option.isNone_iff_eq_none.mp hlife]
    · rw [entityOf_setObject_self hr, hof, Option.map_some]
    · rw [entityOf_moveOnGrid, entityOf_setObject_self hr, hof, Option.map_some]

/-- The loop comes by every entity once. -/
theorem entityOf_foldl_simulated (hn : Named s) {ids : List EntityID} (hnodup : ids.Nodup) :
    (ids.foldl (simulated N dt seed) s).entityOf id =
      if id ∈ ids then (s.entityOf id).map (Entity.onSimulate N (seed id) dt)
      else s.entityOf id := by
  induction ids generalizing s with
  | nil => simp
  | cons key ids ih =>
    obtain ⟨hkey, hnodup⟩ := List.nodup_cons.mp hnodup
    rw [List.foldl_cons, ih (named_simulated hn key) hnodup]
    by_cases hid : id = key
    · subst hid
      simp [hkey, entityOf_simulated_self]
    · simp [hid, entityOf_simulated_ne hn hid]

end Simulate

end Store

namespace Game

variable {g : Game} {id : EntityID}

theorem entityOf_simulate (hn : Named g.toStore) (N : Numerics) (dt : Duration)
    (seed : EntityID → ℤ) (order : List EntityID) :
    (simulate N g dt seed order).entityOf id =
      (g.entityOf id).map (Entity.onSimulate N (seed id) dt) := by
  have hstore : (simulate N g dt seed order).toStore =
      (g.entities.range order).foldl (Store.simulated N dt seed) g.toStore :=
    toStore_foldl (toStore_simulateEntity N dt seed) _ g
  rw [hstore, Store.entityOf_foldl_simulated hn (Dict.nodup_range order _)]
  split_ifs with hmem
  · rfl
  · have hnone : g.entities.get id = none := by
      simpa [Dict.mem_range_iff] using hmem
    simp [Store.entityOf, hnone]

/-- The call puts the entity somewhere: it adds it there, or it dispatches a position that
its client has sent. -/
def Places (H : Host) (g : Game) (id : EntityID) (pos : Vector3) : Call → Prop
  | .dispatchNext => ∃ p ∈ g.inbox.recv, p.1.clientID = id ∧
    ∃ upd, Wire.request H.codec p.1.data = some (.position upd) ∧
      upd.position.getD Vector3.zero = pos
  | c => ∃ e, g.addedEntity c = some e ∧ e.id = id ∧ e.position = pos

/-- Neither placed nor simulated, an entity stays as it is while it is there. -/
theorem entityOf_step (H : Host) (hn : Named g.toStore) {c : Call}
    (hc : ∀ pos, ¬ Places H g id pos c)
    (hsim : ∀ dt seed order, c ≠ .simulate dt seed order) :
    (step H g c).entityOf id = g.entityOf id ∨ (step H g c).entityOf id = none := by
  have hadd : ∀ e : Entity, e.id ≠ id → (g.toStore.addEntity e).entityOf id = g.entityOf id :=
    fun e he => Store.entityOf_addEntity_ne hn e he.symm
  cases c with
  | assignZone z =>
    obtain heq | ⟨s, hs, heq⟩ := step_assignZone H g z
    · exact .inl (by rw [heq])
    · exact .inl (by rw [heq]; exact Store.entityOf_assignZone hs)
  | releaseZone zid =>
    obtain heq | ⟨s, hs, heq⟩ := step_releaseZone H g zid
    · exact .inl (by rw [heq])
    · rw [heq]
      exact Store.entityOf_releaseZone hs
  | addEntity e => exact .inl (hadd e fun h => hc _ ⟨e, rfl, h, rfl⟩)
  | migrateEntityIn snap target => exact .inl (hadd _ fun h => hc _ ⟨_, rfl, h, rfl⟩)
  | removeEntity key => exact g.toStore.entityOf_removeEntity key
  | migrateEntityOut key => exact g.toStore.entityOf_removeEntity key
  | applyCmd =>
    rcases hrecv : g.cmds.recv with _ | ⟨cmd, ch⟩
    · exact .inl (by simp only [step, applyCmd, hrecv])
    · simp only [step, applyCmd, hrecv]
      cases cmd with
      | add e =>
        have hadded : g.addedEntity .applyCmd = some e := by simp [addedEntity, hrecv]
        exact .inl (hadd e fun h => hc _ ⟨e, hadded, h, rfl⟩)
      | remove key => exact g.toStore.entityOf_removeEntity key
  | dispatchNext =>
    rcases hrecv : g.inbox.recv with _ | ⟨pkt, ch⟩
    · exact .inl (by simp only [step, dispatchNext, hrecv])
    · simp only [step, dispatchNext, hrecv]
      rw [toStore_dispatch]
      rcases hreq : Wire.request H.codec pkt.data with _ | upd | act | ⟨st, payload⟩
      · exact .inl rfl
      · have hne : id ≠ pkt.clientID := fun h => hc _ ⟨_, hrecv, h.symm, upd, hreq, rfl⟩
        exact .inl (Store.entityOf_reposition_ne hn hne _)
      · exact .inl rfl
      · exact .inl rfl
  | simulate dt seed order => exact absurd rfl (hsim dt seed order)
  | detectZoneBoundaries zid now order =>
    have hquiet := Quiet.detectZoneBoundaries g zid now order
    exact Store.entityOf_eq_or_none (Store.objects_detectZoneBoundaries _ _ _ _)
      (.inl (congrArg (Dict.get · id) hquiet.maps.entities))
  | updateVisibility zid order =>
    obtain ⟨aoi, haoi⟩ := (Shows.updateVisibility g zid order).store
    exact .inl (by simp only [step, haoi]; rfl)
  | sweepGhosts now order =>
    have hquiet := Quiet.sweepGhosts g now order
    exact Store.entityOf_eq_or_none (Store.objects_sweepGhosts _ _ _)
      (.inl (congrArg (Dict.get · id) hquiet.maps.entities))
  | sweepDisconnected now order =>
    simp only [step, toStore_sweepDisconnected]
    exact g.toStore.entityOf_foldl_expire _
  | _ => exact .inl (by simp [step])

theorem position_of_places {H : Host} {pos : Vector3} {c : Call} (hc : Places H g id pos c)
    {e : Entity} (he : (step H g c).entityOf id = some e) : e.position = pos := by
  have hadd : ∀ e', e'.id = id ∧ e'.position = pos →
      (g.toStore.addEntity e').entityOf id = some e → e.position = pos := by
    rintro e' ⟨rfl, rfl⟩ he'
    obtain ⟨sim, hsim⟩ := g.toStore.exists_entityOf_addEntity e'
    cases he'.symm.trans hsim
    exact Store.deriveSpace_position _ _
  cases c with
  | dispatchNext =>
    obtain ⟨⟨pkt, ch⟩, hrecv, rfl, upd, hreq, rfl⟩ := hc
    simp only [step, dispatchNext, Option.mem_def.mp hrecv] at he
    rw [toStore_dispatch, hreq] at he
    obtain ⟨e', -, rfl⟩ := Option.map_eq_some_iff.mp (Store.entityOf_reposition_self _ ▸ he)
    rfl
  | addEntity e' =>
    obtain ⟨_, ⟨⟩, hput⟩ := hc
    exact hadd _ hput he
  | migrateEntityIn snap target =>
    obtain ⟨_, ⟨⟩, hput⟩ := hc
    exact hadd _ hput he
  | applyCmd =>
    obtain ⟨e', hadded, hput⟩ := hc
    rcases hrecv : g.cmds.recv with _ | ⟨cmd | key, ch⟩
    · simp [addedEntity, hrecv] at hadded
    · simp only [addedEntity, hrecv, Option.some.injEq] at hadded
      subst hadded
      simp only [step, applyCmd, hrecv] at he
      exact hadd _ hput he
    · simp [addedEntity, hrecv] at hadded
  | _ =>
    obtain ⟨e', hadded, -⟩ := hc
    cases hadded

/-- A call of the node that is none of the server's own leaves the entities alone. -/
theorem entityOf_nodeStep (H : Host) {c : NodeCall} (hc : ∀ c', c ≠ .own c') :
    (nodeStep H g c).entityOf id = g.entityOf id := by
  obtain ⟨c', rfl⟩ | ⟨zid, state, order, rfl⟩ | heq | ⟨zid, op, heq, -⟩ := nodeStep_cases H g c
  · exact absurd rfl (hc c')
  · simp only [nodeStep, onStore, Store.openIndex]
    split <;> rfl
  · rw [heq]
  · rw [heq]
    simp only [onStore, Store.onReplicas]
    split <;> rfl

/-- The same of any call that reaches the node. -/
def Puts (H : Host) (g : Game) (id : EntityID) (pos : Vector3) : NodeCall → Prop
  | .own c => Places H g id pos c
  | _ => False

/-- An entity that a call has not put there was there before, and at most its behaviour
was simulated. -/
theorem exists_entityOf_before (H : Host) (hn : Named g.toStore) {c : NodeCall}
    (hc : ∀ pos, ¬ Puts H g id pos c) {e : Entity} (he : (nodeStep H g c).entityOf id = some e) :
    ∃ e₀, g.entityOf id = some e₀ ∧
      (e = e₀ ∨ ∃ seed dt, e = e₀.onSimulate H.numerics seed dt) := by
  cases c with
  | own c =>
    by_cases hsim : ∃ dt seed order, c = .simulate dt seed order
    · obtain ⟨dt, seed, order, rfl⟩ := hsim
      simp only [nodeStep, step] at he
      obtain ⟨e₀, he₀, rfl⟩ := Option.map_eq_some_iff.mp (entityOf_simulate hn _ _ _ _ ▸ he)
      exact ⟨e₀, he₀, .inr ⟨seed id, dt, rfl⟩⟩
    · have hsim' : ∀ dt seed order, c ≠ .simulate dt seed order := by simpa using hsim
      obtain heq | heq := entityOf_step H hn hc hsim'
      · exact ⟨e, heq ▸ he, .inl rfl⟩
      · exact absurd (heq.symm.trans he) (by simp)
  | _ =>
    rw [entityOf_nodeStep H (by simp)] at he
    exact ⟨e, he, .inl rfl⟩

theorem entityOf_before (H : Host) (hn : Named g.toStore) {c : NodeCall}
    (hc : ∀ pos, ¬ Puts H g id pos c) {e : Entity} (hlife : e.lifecycle = none)
    (he : (nodeStep H g c).entityOf id = some e) : g.entityOf id = some e := by
  obtain ⟨e₀, he₀, rfl | ⟨seed, dt, rfl⟩⟩ := exists_entityOf_before H hn hc he
  · exact he₀
  · rw [he₀, Entity.onSimulate_eq_self hlife]

/-- Of the calls that put the entity somewhere, the last one has put it there. -/
def LastPut (H : Host) (sid : ServerID) (calls : List NodeCall) (id : EntityID) (pos : Vector3) :
    Prop :=
  ∃ before c after, calls = before ++ c :: after ∧
    Puts H (exec (nodeStep H) (new sid) before) id pos c ∧
    Along (nodeStep H) (fun g c => ∀ pos, ¬ Puts H g id pos c)
      (exec (nodeStep H) (new sid) (before ++ [c])) after

namespace LastPut

variable {H : Host} {sid : ServerID} {calls : List NodeCall} {c : NodeCall} {pos : Vector3}

theorem of_puts (hc : Puts H (exec (nodeStep H) (new sid) calls) id pos c) :
    LastPut H sid (calls ++ [c]) id pos :=
  ⟨calls, c, [], rfl, hc, trivial⟩

theorem snoc (h : LastPut H sid calls id pos)
    (hc : ∀ pos, ¬ Puts H (exec (nodeStep H) (new sid) calls) id pos c) :
    LastPut H sid (calls ++ [c]) id pos := by
  obtain ⟨before, c', after, rfl, hput, hafter⟩ := h
  refine ⟨before, c', after ++ [c], by simp, hput, ?_⟩
  rw [along_append]
  refine ⟨hafter, ?_⟩
  rw [← exec_append]
  simpa using hc

end LastPut

/-- An entity without a behaviour, such as the one of a client, stands where it was last
put: by the call that added it, or by a position of its own client. -/
theorem lastPut_of_entityOf (H : Host) (sid : ServerID) {calls : List NodeCall} {e : Entity}
    (he : (exec (nodeStep H) (new sid) calls).entityOf id = some e) (hlife : e.lifecycle = none) :
    LastPut H sid calls id e.position := by
  induction calls using List.reverseRecOn with
  | nil => cases he
  | append_singleton calls c ih =>
    rw [exec_append, exec_cons, exec_nil] at he
    have hn := (sound_exec H sid calls).named
    by_cases hc : ∃ pos, Puts H (exec (nodeStep H) (new sid) calls) id pos c
    · obtain ⟨pos, hput⟩ := hc
      refine .of_puts ?_
      cases c with
      | own c => rwa [position_of_places hput he]
      | _ => exact hput.elim
    · have hc' : ∀ pos, ¬ Puts H (exec (nodeStep H) (new sid) calls) id pos c := by simpa using hc
      exact (ih (entityOf_before H hn hc' hlife he)).snoc hc'

end Game

/-! ## The pace of a behaviour -/

def Behavior.speed : Behavior → ℚ
  | .patrol speed _ _ => speed
  | .idle _ _ _ => 0
  | .wander _ _ speed _ _ _ => speed

def Entity.speed (e : Entity) : ℚ :=
  match e.lifecycle with
  | some ⟨some b⟩ => b.speed
  | _ => 0

/-- The way from one place to the other is no longer than that, on both horizontal axes. -/
def Vector3.Near (p q : Vector3) (d : ℚ) : Prop := |q.x - p.x| ≤ d ∧ |q.z - p.z| ≤ d

theorem Vector3.Near.trans {p q r : Vector3} {d d' : ℚ} (h : p.Near q d) (h' : q.Near r d') :
    p.Near r (d + d') := by
  refine ⟨?_, ?_⟩
  · have := abs_sub_le r.x q.x p.x
    linarith [h.1, h'.1]
  · have := abs_sub_le r.z q.z p.z
    linarith [h.2, h'.2]

theorem Vector3.near_self (p : Vector3) {d : ℚ} (hd : 0 ≤ d) : p.Near p d := by
  simpa [Near] using hd

theorem moveAxis_near {delta : ℚ} (h : 0 ≤ delta) (pos target : ℚ) :
    |(moveAxis pos target delta).1 - pos| ≤ delta := by
  rw [moveAxis_eq h]
  exact Approach.abs_approach_sub_le h pos target

theorem Behavior.step_near (N : Numerics) (seed : ℤ) (b : Behavior) (pos : Vector3) {dt : Duration}
    (h : 0 ≤ b.speed * seconds dt) : (b.step N seed pos dt).behavior.speed = b.speed ∧
      pos.Near (b.step N seed pos dt).position (b.speed * seconds dt) := by
  cases b with
  | patrol speed waypoints target =>
    simp only [step]
    split
    · exact ⟨rfl, pos.near_self h⟩
    · exact ⟨rfl, moveAxis_near h _ _, moveAxis_near h _ _⟩
  | idle amplitude freq phase => exact ⟨rfl, by simp [Vector3.Near, step, speed]⟩
  | wander origin radius speed rng target pause =>
    by_cases hpause : pause > 0
    · simp only [step, if_pos hpause]
      exact ⟨rfl, pos.near_self h⟩
    · simp only [step, if_neg hpause]
      generalize (if target = Vector3.zero then wanderTarget N origin radius
        (rng.getD (N.newRand seed)) else (target, rng.getD (N.newRand seed))) = drawn
      have hx := moveAxis_near h pos.x drawn.1.x
      have hz := moveAxis_near h pos.z drawn.1.z
      have hstand : |pos.z - pos.z| ≤ speed * seconds dt := by rwa [sub_self, abs_zero]
      split
      · split <;> exact ⟨rfl, hx, hstand⟩
      · split <;> exact ⟨rfl, hx, hz⟩

theorem Entity.onSimulate_near (N : Numerics) (seed : ℤ) (e : Entity) {dt : Duration}
    (h : 0 ≤ e.speed * seconds dt) : (e.onSimulate N seed dt).speed = e.speed ∧
      e.position.Near (e.onSimulate N seed dt).position (e.speed * seconds dt) := by
  rcases hlife : e.lifecycle with _ | ⟨_ | b⟩
  · simp only [onSimulate, hlife]
    exact ⟨trivial, e.position.near_self h⟩
  · simp only [onSimulate, hlife]
    exact ⟨trivial, e.position.near_self h⟩
  · have hspeed : e.speed = b.speed := by simp [speed, hlife]
    rw [hspeed] at h ⊢
    simp only [onSimulate, hlife]
    exact b.step_near N seed e.position h

/-! ## The clock of the ticks -/

namespace Game

@[simp] theorem lastTickAt_publishAll (g : Game) (evts : List Event) :
    (g.publishAll evts).lastTickAt = g.lastTickAt := by
  refine List.foldlRecOn (motive := fun g' : Game => g'.lastTickAt = g.lastTickAt) _ _ rfl
    fun g' hg' evt _ => Eq.trans ?_ hg'
  unfold publish
  split <;> rfl

@[simp] theorem lastTickAt_enqueueMove (g : Game) (id : EntityID) (pos : Vector3) :
    (g.enqueueMove id pos).lastTickAt = g.lastTickAt := by
  unfold enqueueMove
  split <;> simp

theorem lastTickAt_dispatch (c : Wire.Codec) (g : Game) (pkt : InboundPacket) :
    (dispatch c g pkt).lastTickAt = g.lastTickAt := by
  obtain heq | ⟨upd, heq⟩ | ⟨st, payload, heq⟩ := dispatch_cases c g pkt
  · rw [heq]
  · rw [heq]
    unfold dispatchPositionUpdate
    split <;> simp [onStore]
  · rw [heq, dispatchEntityState_eq]
    cases g.entityOf st.entityID <;> simp

theorem lastTickAt_simulateEntity (N : Numerics) (dt : Duration) (seed : EntityID → ℤ) (g : Game)
    (id : EntityID) : (simulateEntity N dt seed g id).lastTickAt = g.lastTickAt := by
  unfold simulateEntity
  split
  · rfl
  · dsimp only
    split_ifs <;> simp [onStore]

theorem lastTickAt_visitObserver (sim : ZoneSim) (order : VisitOrder) (g : Game) (id : EntityID) :
    (visitObserver sim order g id).lastTickAt = g.lastTickAt := by
  unfold visitObserver
  split <;> simp

theorem lastTickAt_sweepSession (now : Time) (g : Game) (id : EntityID) :
    (sweepSession now g id).lastTickAt = g.lastTickAt := by
  obtain ⟨s, states, heq⟩ := sweepSession_frame now g id
  rw [heq]

/-- Only a tick that begins sets the clock. -/
theorem lastTickAt_step (H : Host) (g : Game) {c : Call} (hc : ∀ now, c ≠ .beginTick now) :
    (step H g c).lastTickAt = g.lastTickAt := by
  have hloop : ∀ {f : Game → EntityID → Game} (ids : List EntityID),
      (∀ g' id, (f g' id).lastTickAt = g'.lastTickAt) →
      (ids.foldl f g).lastTickAt = g.lastTickAt := fun ids hf =>
    List.foldlRecOn (motive := fun g' : Game => g'.lastTickAt = g.lastTickAt) ids _ rfl
      fun g' hg' id _ => (hf g' id).trans hg'
  cases c with
  | beginTick now => exact absurd rfl (hc now)
  | assignZone z => rw [step_assignZone_eq]
  | releaseZone zid => rw [step_releaseZone_eq]
  | dispatchNext =>
    simp only [step, dispatchNext]
    split
    · exact lastTickAt_dispatch _ _ _
    · rfl
  | applyCmd =>
    simp only [step, applyCmd]
    split
    · next cmd ch _ => cases cmd <;> rfl
    · rfl
  | simulate dt seed order => exact hloop _ (lastTickAt_simulateEntity H.numerics dt seed)
  | updateVisibility zid order =>
    simp only [step, updateVisibility]
    split
    · rfl
    · exact hloop _ (lastTickAt_visitObserver _ order)
  | sweepDisconnected now order => exact hloop _ (lastTickAt_sweepSession now)
  | enqueueAddEntity e | enqueueRemoveEntity key =>
    simp only [step, enqueueCmd]
    split <;> rfl
  | receive pkt =>
    simp only [step, receive]
    split <;> rfl
  | drainEvent =>
    simp only [step, drainEvent]
    split <;> rfl
  | markDisconnected key now =>
    simp only [step, markDisconnected]
    split <;> rfl
  | _ => rfl

theorem maxTickDelta_nonneg : 0 ≤ maxTickDelta := by decide

theorem tickDelta_bounds {g : Game} {now : Time} (h : g.lastTickAt ≤ now) :
    0 ≤ g.tickDelta now ∧ g.tickDelta now ≤ maxTickDelta ∧
      (g.lastTickAt ≠ 0 → g.tickDelta now ≤ now - g.lastTickAt) := by
  unfold tickDelta
  refine ⟨le_min ?_ maxTickDelta_nonneg, min_le_right _ _, fun hne => ?_⟩
  · split_ifs
    · exact (sub_self now).ge
    · exact sub_nonneg.mpr h
  · rw [if_neg hne]
    exact min_le_left _ _

theorem lastTickAt_nodeStep (H : Host) (g : Game) {c : NodeCall}
    (hc : ∀ now, c ≠ .own (.beginTick now)) : (nodeStep H g c).lastTickAt = g.lastTickAt := by
  cases c with
  | own c => exact lastTickAt_step H g fun now h => hc now (congrArg _ h)
  | _ => rfl

end Game

/-! ## The loop and everyone else -/

namespace Phase

/-- What a tick that has begun has yet to simulate. -/
def pending : Phase → Duration
  | applyCmds dt _ | drain dt _ | simulate dt => dt
  | _ => 0

/-- Whether the loop simulates next. The tick is counted then. -/
def simulations : Phase → ℕ
  | simulate _ => 1
  | _ => 0

/-- Between the beginning of a tick and its simulation, and after it, the loop does
neither. -/
theorem quiet_of_ne {phase : Phase} (hidle : phase ≠ idle) (hsim : ∀ dt, phase ≠ simulate dt)
    (inp : Game.TickInput) (g : Game) :
    (phase.next inp g).pending = phase.pending ∧ phase.simulations = 0 ∧
      ∀ c ∈ phase.call inp, (∀ now, c ≠ .beginTick now) ∧
        ∀ dt seed order, c ≠ .simulate dt seed order := by
  cases phase with
  | idle => exact absurd rfl hidle
  | simulate dt => exact absurd rfl (hsim dt)
  | applyCmds dt applied =>
    refine ⟨?_, rfl, ?_⟩
    · simp only [next]
      split_ifs <;> rfl
    · simp only [call]
      split_ifs <;> simp
  | drain dt processed =>
    refine ⟨?_, rfl, by simp [call]⟩
    simp only [next]
    split_ifs <;> rfl
  | detectZoneBoundaries zids => cases zids <;> exact ⟨rfl, rfl, by simp [call]⟩
  | _ => exact ⟨rfl, rfl, by simp [call]⟩

end Phase

structure Ticking where
  phase : Phase
  game : Game
  tickCount : ℕ

inductive TickingStep where
  | loop (inp : Game.TickInput)
  | call (c : NodeCall)

namespace Ticking

def step (H : Host) (t : Ticking) : TickingStep → Ticking
  | .loop inp => ⟨t.phase.next inp t.game, t.game.loopCall H inp t.phase,
      t.tickCount + t.phase.simulations⟩
  | .call c => { t with game := t.game.nodeStep H c }

/-- Only the loop begins ticks and simulates, and its clock does not go back. Nobody puts
the entity anywhere. -/
def LeftAlone (H : Host) (id : EntityID) (t : Ticking) : TickingStep → Prop
  | .loop inp => (t.phase = .idle → t.game.lastTickAt ≤ inp.now) ∧
    ∀ c ∈ t.phase.call inp, ∀ pos, ¬ Game.Places H t.game id pos c
  | .call c => (∀ now, c ≠ .own (.beginTick now)) ∧
    (∀ dt seed order, c ≠ .own (.simulate dt seed order)) ∧
    ∀ pos, ¬ Game.Puts H t.game id pos c

/-- Since the start the entity has been simulated for the time `spent`. -/
structure Paced (t₀ : Ticking) (e₀ : Entity) (id : EntityID) (spent : Duration) (t : Ticking) :
    Prop where
  sound : Sound t.game.toStore
  entity : ∀ e, t.game.entityOf id = some e → e.speed = e₀.speed ∧
    e₀.position.Near e.position (e₀.speed * seconds spent)
  spent_nonneg : 0 ≤ spent
  pending_nonneg : 0 ≤ t.phase.pending
  pending_le : t.phase.pending ≤ maxTickDelta
  counted : spent ≤ (t.tickCount - t₀.tickCount) * maxTickDelta
  clock : 0 < t₀.game.lastTickAt →
    t₀.game.lastTickAt + spent + t.phase.pending ≤ t.game.lastTickAt

namespace Paced

variable {H : Host} {t₀ t t' : Ticking} {e₀ : Entity} {id : EntityID} {spent : Duration}

/-- A step that neither begins a tick nor simulates. -/
theorem quiet (h : Paced t₀ e₀ id spent t) (hsound : Sound t'.game.toStore)
    (hentity : t'.game.entityOf id = t.game.entityOf id ∨ t'.game.entityOf id = none)
    (hclock : t'.game.lastTickAt = t.game.lastTickAt) (hcount : t'.tickCount = t.tickCount)
    (hpending : t'.phase.pending = t.phase.pending) : Paced t₀ e₀ id spent t' where
  sound := hsound
  entity e he := by
    obtain heq | heq := hentity
    · exact h.entity e (heq.symm.trans he)
    · exact absurd (heq.symm.trans he) (by simp)
  spent_nonneg := h.spent_nonneg
  pending_nonneg := hpending ▸ h.pending_nonneg
  pending_le := hpending ▸ h.pending_le
  counted := hcount ▸ h.counted
  clock := by
    rw [hclock, hpending]
    exact h.clock

theorem call (h : Paced t₀ e₀ id spent t) {c : NodeCall} (hc : LeftAlone H id t (.call c)) :
    Paced t₀ e₀ id spent (t.step H (.call c)) := by
  obtain ⟨hbegin, hsim, hput⟩ := hc
  refine h.quiet (Game.sound_nodeStep H h.sound c) ?_ (Game.lastTickAt_nodeStep H _ hbegin) rfl rfl
  cases c with
  | own c =>
    exact Game.entityOf_step H h.sound.named hput
      fun dt seed order hc => hsim dt seed order (congrArg _ hc)
  | _ => exact .inl (Game.entityOf_nodeStep H (by simp))

theorem beginTick (h : Paced t₀ e₀ id spent t) (hidle : t.phase = .idle) {inp : Game.TickInput}
    (hnow : t.game.lastTickAt ≤ inp.now) : Paced t₀ e₀ id spent (t.step H (.loop inp)) := by
  obtain ⟨hnonneg, hcap, hsince⟩ := Game.tickDelta_bounds hnow
  have heq : t.step H (.loop inp) =
      ⟨.applyCmds (t.game.tickDelta inp.now) 0, { t.game with lastTickAt := inp.now },
        t.tickCount⟩ := by
    simp only [Ticking.step, hidle]
    rfl
  rw [heq]
  refine ⟨h.sound, h.entity, h.spent_nonneg, hnonneg, hcap, h.counted, fun hpos => ?_⟩
  have hclock := h.clock hpos
  have hspent := h.spent_nonneg
  have hpending := h.pending_nonneg
  have hticked : t.game.lastTickAt ≠ 0 := by
    intro hzero
    rw [hzero] at hclock
    linarith
  have hdt := hsince hticked
  change t₀.game.lastTickAt + spent + t.game.tickDelta inp.now ≤ inp.now
  linarith

theorem simulate (h : Paced t₀ e₀ id spent t) (hspeed : 0 ≤ e₀.speed) {dt : Duration}
    (hphase : t.phase = .simulate dt) (inp : Game.TickInput) :
    Paced t₀ e₀ id (spent + dt) (t.step H (.loop inp)) := by
  have heq : t.step H (.loop inp) =
      ⟨.zoneIDs, t.game.step H (.simulate dt inp.seed inp.simulateOrder), t.tickCount + 1⟩ := by
    simp only [Ticking.step, hphase]
    rfl
  have hdt : 0 ≤ dt := by simpa [hphase, Phase.pending] using h.pending_nonneg
  have hcap : dt ≤ maxTickDelta := by simpa [hphase, Phase.pending] using h.pending_le
  rw [heq]
  refine ⟨Game.sound_step H h.sound _, ?_, add_nonneg h.spent_nonneg hdt, le_rfl,
    Game.maxTickDelta_nonneg, ?_, ?_⟩
  · intro e he
    simp only [Game.step] at he
    rw [Game.entityOf_simulate h.sound.named] at he
    obtain ⟨e₁, he₁, rfl⟩ := Option.map_eq_some_iff.mp he
    obtain ⟨hsame, hnear⟩ := h.entity e₁ he₁
    have hway : 0 ≤ e₁.speed * seconds dt := mul_nonneg (hsame ▸ hspeed) (seconds_nonneg hdt)
    obtain ⟨hkept, hstep⟩ := e₁.onSimulate_near H.numerics (inp.seed id) hway
    refine ⟨hkept.trans hsame, ?_⟩
    rw [seconds_add, mul_add]
    exact hnear.trans (hsame ▸ hstep)
  · have hcounted := h.counted
    push_cast
    linarith
  · intro hpos
    have hclock := h.clock hpos
    rw [hphase] at hclock
    rw [Game.lastTickAt_step H _ (by simp)]
    simp only [Phase.pending] at hclock ⊢
    linarith

theorem loop (h : Paced t₀ e₀ id spent t) (hidle : t.phase ≠ .idle)
    (hsim : ∀ dt, t.phase ≠ .simulate dt) {inp : Game.TickInput}
    (hc : LeftAlone H id t (.loop inp)) : Paced t₀ e₀ id spent (t.step H (.loop inp)) := by
  obtain ⟨hpending, hcount, hcall⟩ := Phase.quiet_of_ne hidle hsim inp t.game
  have hstep : Sound (t.game.loopCall H inp t.phase).toStore ∧
      ((t.game.loopCall H inp t.phase).entityOf id = t.game.entityOf id ∨
        (t.game.loopCall H inp t.phase).entityOf id = none) ∧
      (t.game.loopCall H inp t.phase).lastTickAt = t.game.lastTickAt := by
    unfold Game.loopCall
    split
    · next c hsome =>
      obtain ⟨hbegin, hsimulate⟩ := hcall c hsome
      exact ⟨Game.sound_step H h.sound c, Game.entityOf_step H h.sound.named (hc.2 c hsome) hsimulate,
        Game.lastTickAt_step H _ hbegin⟩
    · exact ⟨h.sound, .inl rfl, rfl⟩
  exact h.quiet hstep.1 hstep.2.1 hstep.2.2 (by simp [Ticking.step, hcount]) hpending

theorem step (h : Paced t₀ e₀ id spent t) (hspeed : 0 ≤ e₀.speed) {ev : TickingStep}
    (hev : LeftAlone H id t ev) : ∃ spent', Paced t₀ e₀ id spent' (t.step H ev) := by
  cases ev with
  | call c => exact ⟨spent, h.call hev⟩
  | loop inp =>
    by_cases hidle : t.phase = .idle
    · exact ⟨spent, h.beginTick hidle (hev.1 hidle)⟩
    by_cases hsim : ∃ dt, t.phase = .simulate dt
    · obtain ⟨dt, hphase⟩ := hsim
      exact ⟨spent + dt, h.simulate hspeed hphase inp⟩
    · exact ⟨spent, h.loop hidle (by simpa using hsim) hev⟩

end Paced

/-- Whatever else is called between the steps of the loop, as long as the clock of the
ticks does not go back: an entity of a speed that is not negative and that nobody puts
elsewhere is no farther from where it was than its speed allows, in the time by which the
clock has advanced, and in a quarter of a second for each tick. The arithmetic is exact. -/
theorem entity_keeps_pace (H : Host) (sid : ServerID) (before : List NodeCall) (tickCount : ℕ)
    (steps : List TickingStep) (id : EntityID) (e e' : Entity)
    (he : (exec (Game.nodeStep H) (Game.new sid) before).entityOf id = some e)
    (hspeed : 0 ≤ e.speed)
    (hsteps : Along (step H) (LeftAlone H id)
      ⟨.idle, exec (Game.nodeStep H) (Game.new sid) before, tickCount⟩ steps)
    (he' : (exec (step H) ⟨.idle, exec (Game.nodeStep H) (Game.new sid) before, tickCount⟩
      steps).game.entityOf id = some e') :
    let t₀ : Ticking := ⟨.idle, exec (Game.nodeStep H) (Game.new sid) before, tickCount⟩
    let t := exec (step H) t₀ steps
    e'.speed = e.speed ∧ ∃ spent : Duration,
      e.position.Near e'.position (e.speed * seconds spent) ∧
      spent ≤ (t.tickCount - tickCount) * maxTickDelta ∧
      (0 < t₀.game.lastTickAt → spent ≤ t.game.lastTickAt - t₀.game.lastTickAt) := by
  intro t₀ t
  have hstart : Paced t₀ e id 0 t₀ := by
    refine ⟨Game.sound_exec H sid before, ?_, le_rfl, le_rfl, Game.maxTickDelta_nonneg, by simp, ?_⟩
    · intro e₁ he₁
      cases he.symm.trans he₁
      exact ⟨rfl, by simpa [seconds] using e.position.near_self le_rfl⟩
    · intro _
      simp [t₀, Phase.pending]
  obtain ⟨spent, hspent⟩ : ∃ spent, Paced t₀ e id spent t := by
    refine exec_invariant (fun t => ∃ spent, Paced t₀ e id spent t) (fun t ev ht hev => ?_)
      ⟨0, hstart⟩ hsteps
    obtain ⟨_, ht⟩ := ht
    exact ht.step hspeed hev
  obtain ⟨hsame, hnear⟩ := hspent.entity e' he'
  refine ⟨hsame, spent, hnear, hspent.counted, fun hpos => ?_⟩
  have hclock := hspent.clock hpos
  have hpending := hspent.pending_nonneg
  linarith

/-- With nothing in its queues the loop puts nobody anywhere. -/
theorem leftAlone_of_empty {H : Host} {id : EntityID} {t : Ticking} {inp : Game.TickInput}
    (hclock : t.game.lastTickAt ≤ inp.now) (hcmds : t.game.cmds.recv = none)
    (hinbox : t.game.inbox.recv = none) : LeftAlone H id t (.loop inp) := by
  refine ⟨fun _ => hclock, fun c hc pos hplaces => ?_⟩
  have htick := Phase.ofTick_call hc
  cases c with
  | dispatchNext =>
    obtain ⟨p, hp, -⟩ := hplaces
    simp [hinbox] at hp
  | applyCmd =>
    obtain ⟨e, he, -⟩ := hplaces
    simp [Game.addedEntity, hcmds] at he
  | addEntity e => simp [Call.ofTick] at htick
  | migrateEntityIn snap target => simp [Call.ofTick] at htick
  | _ =>
    obtain ⟨e, he, -⟩ := hplaces
    cases he

/-- A patrol of speed ten after a tick of a hundred milliseconds. -/
theorem patrol_keeps_pace :
    let H := Host.steady Vector3.zero
    let npc : Entity := { Entity.new "npc" "npc" "" with
      lifecycle := some ⟨some (.patrol 10 [⟨100, 0, 0⟩] 0)⟩ }
    let before : List NodeCall := [.own (.addEntity npc), .own (.beginTick second)]
    let t₀ : Ticking := ⟨.idle, exec (Game.nodeStep H) (Game.new "gs") before, 0⟩
    let t := exec (step H) t₀ (List.replicate 4 (.loop (.reading (second + second / 10))))
    ∃ e', t.game.entityOf "npc" = some e' ∧ e'.position.x = 1 ∧ ∃ spent : Duration,
      npc.position.Near e'.position (10 * seconds spent) ∧ spent ≤ 1 * maxTickDelta ∧
        spent ≤ second / 10 := by
  intro H npc before t₀ t
  obtain ⟨e', he'⟩ : ∃ e', t.game.entityOf "npc" = some e' :=
    Option.isSome_iff_exists.mp (by decide +kernel)
  have hx : (t.game.entityOf "npc").map (fun e => e.position.x) = some 1 := by decide +kernel
  have he : t₀.game.entityOf "npc" = some { npc with zoneID := "default" } := by rfl
  have hsteps : Along (step H) (LeftAlone H "npc") t₀
      (List.replicate 4 (.loop (.reading (second + second / 10)))) := by
    refine ⟨leftAlone_of_empty ?_ ?_ ?_, leftAlone_of_empty ?_ ?_ ?_, leftAlone_of_empty ?_ ?_ ?_,
      leftAlone_of_empty ?_ ?_ ?_, trivial⟩
    all_goals decide +kernel
  obtain ⟨-, spent, hnear, hcount, hclock⟩ := entity_keeps_pace H "gs" before 0 _ "npc" _ e' he
    (by decide +kernel) hsteps he'
  have helapsed : t.game.lastTickAt - t₀.game.lastTickAt = second / 10 := by decide +kernel
  rw [he'] at hx
  exact ⟨e', he', Option.some.inj hx, spent, hnear, hcount,
    (hclock (by decide +kernel)).trans helapsed.le⟩

end Ticking

end SpatialServer
