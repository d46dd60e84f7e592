import SpatialServer.Publishing

/-!
# Sessions and the lifetime of entities

Entities appear by being added and disappear by being removed, by the release of
their zone or by the expiry of their session. Session records live longer: adding
and removing an entity leaves its record alone. The first part says what every
call does to the two maps; the second relates the sweep to the latest thing that
happened to an identifier.
-/
namespace SpatialServer

open Runs

theorem Store.entities_addEntity (s : Store) (e : Entity) (id : EntityID) :
    (s.addEntity e).entities.get id = if id = e.id then some s.objects.next else
      s.entities.get id := by
  obtain ⟨sim, -, heq⟩ := s.exists_addEntity_eq e
  simp [heq, placeEntity, Dict.get_set]

theorem Store.entities_removeEntity_ne (s : Store) {id x : EntityID} (hne : x ≠ id) :
    (s.removeEntity id).entities.get x = s.entities.get x := by
  unfold removeEntity
  split
  · rfl
  · dsimp only
    split <;> exact Dict.get_del_ne _ hne

theorem Store.isSome_of_removeEntity {s : Store} {id x : EntityID}
    (h : ((s.removeEntity id).entities.get x).isSome) : (s.entities.get x).isSome := by
  unfold removeEntity at h
  split at h
  · exact h
  · dsimp only at h
    split at h <;>
    · simp only [Store.updateGrid, Dict.get_del] at h
      split_ifs at h
      · simp at h
      · exact h

theorem Store.entities_assignZone {s s' : Store} {z : Zone} (h : s.assignZone z = .ok s') :
    s'.entities = s.entities := by
  unfold assignZone at h
  split_ifs at h
  cases h; rfl

theorem Store.isSome_of_releaseZone {s s' : Store} {zid : ZoneID} (h : s.releaseZone zid = .ok s')
    {x : EntityID} (hx : (s'.entities.get x).isSome) : (s.entities.get x).isSome := by
  unfold releaseZone at h
  split_ifs at h
  cases h
  simp only [Dict.get_delAll] at hx
  split_ifs at hx
  · simp at hx
  · exact hx

namespace Game

/-! ## The sweep -/

theorem sweepSession_reconnectWindow (now : Time) (g : Game) (id : EntityID) :
    (sweepSession now g id).reconnectWindow = g.reconnectWindow := by
  obtain ⟨s, states, heq⟩ := sweepSession_frame now g id
  rw [heq]

theorem sweepSession_entities (now : Time) (g : Game) (id x : EntityID) :
    (sweepSession now g id).entities.get x =
      if x = id ∧ g.expired now id then none else g.entities.get x := by
  unfold sweepSession
  split
  · next hexp =>
    dsimp only
    split
    · split <;> simp [hexp, onStore, Store.updateGrid, Dict.get_del]
    · simp [hexp, Dict.get_del]
  · next hexp => simp [hexp]

theorem sweepSession_sessionStates (now : Time) (g : Game) (id x : EntityID) :
    (sweepSession now g id).sessionStates.get x =
      if x = id ∧ g.expired now id then none else g.sessionStates.get x := by
  unfold sweepSession
  split
  · next hexp =>
    dsimp only
    split
    · split <;> simp [hexp, onStore, Dict.get_del]
    · simp [hexp, Dict.get_del]
  · next hexp => simp [hexp]

theorem sweepSession_expired (now : Time) (g : Game) (id x : EntityID) :
    (sweepSession now g id).expired now x = (g.expired now x && !decide (x = id)) := by
  unfold expired
  rw [sweepSession_sessionStates, sweepSession_reconnectWindow]
  by_cases hx : x = id
  · subst x
    by_cases hexp : g.expired now id
    · simp [hexp]
    · simp only [hexp]
      simpa [expired] using hexp
  · simp [hx]

theorem foldl_sweepSession (now : Time) (ids : List EntityID) (g : Game) (x : EntityID) :
    (ids.foldl (sweepSession now) g).entities.get x =
        (if x ∈ ids ∧ g.expired now x then none else g.entities.get x) ∧
      (ids.foldl (sweepSession now) g).sessionStates.get x =
        (if x ∈ ids ∧ g.expired now x then none else g.sessionStates.get x) := by
  induction ids generalizing g with
  | nil => simp
  | cons id ids ih =>
    rw [List.foldl_cons, (ih _).1, (ih _).2, sweepSession_expired, sweepSession_entities,
      sweepSession_sessionStates]
    by_cases hx : x = id
    · subst x; simp
    · simp [hx]

/-- The sweep removes exactly the expired identifiers, whatever its order. -/
theorem sweepDisconnected_get (g : Game) (now : Time) (order : List EntityID) (x : EntityID) :
    (g.sweepDisconnected now order).entities.get x =
        (if g.expired now x then none else g.entities.get x) ∧
      (g.sweepDisconnected now order).sessionStates.get x =
        (if g.expired now x then none else g.sessionStates.get x) := by
  have hmem : g.expired now x → x ∈ g.sessionStates.range order := by
    intro hexp
    rw [Dict.mem_range_iff]
    unfold expired at hexp
    cases hst : g.sessionStates.get x with
    | none => simp [hst] at hexp
    | some st => rfl
  have hiff : (x ∈ g.sessionStates.range order ∧ g.expired now x) ↔ g.expired now x :=
    ⟨fun h => h.2, fun h => ⟨hmem h, h⟩⟩
  have h := foldl_sweepSession now (g.sessionStates.range order) g x
  simp only [hiff] at h
  exact h

theorem markDisconnected_sessionStates (g : Game) (id : EntityID) (now : Time) (x : EntityID) :
    (g.markDisconnected id now).sessionStates.get x =
      if x = id ∧ (g.entities.get id).isSome then some ⟨.disconnected, now⟩
      else g.sessionStates.get x := by
  unfold markDisconnected
  cases g.entities.get id with
  | none => simp
  | some r => simp [Dict.get_set]

/-! ## One call -/

/-- Whoever exists after a call existed before or was added by it. -/
theorem isSome_of_step (H : Host) {g : Game} {c : Call} {id : EntityID}
    (h : ((step H g c).entities.get id).isSome) :
    (g.entities.get id).isSome ∨ g.added c = some id := by
  have hadd : ∀ (s : Store) (e : Entity), ((s.addEntity e).entities.get id).isSome →
      (s.entities.get id).isSome ∨ some e.id = some id := by
    intro s e he
    rw [s.entities_addEntity] at he
    split_ifs at he with hid
    · exact .inr (by rw [hid])
    · exact .inl he
  cases c with
  | assignZone z =>
    obtain heq | ⟨s, hs, heq⟩ := step_assignZone H g z <;> rw [heq] at h
    · exact .inl h
    · exact .inl (Store.entities_assignZone hs ▸ h)
  | releaseZone zid =>
    obtain heq | ⟨s, hs, heq⟩ := step_releaseZone H g zid <;> rw [heq] at h
    · exact .inl h
    · exact .inl (Store.isSome_of_releaseZone hs h)
  | addEntity e => exact hadd g.toStore e h
  | migrateEntityIn snap target => exact hadd g.toStore (Store.snapshotEntity snap target) h
  | removeEntity x => exact .inl (Store.isSome_of_removeEntity h)
  | migrateEntityOut x => exact .inl (Store.isSome_of_removeEntity h)
  | enqueueAddEntity e => exact .inl (by simpa [step] using h)
  | enqueueRemoveEntity x => exact .inl (by simpa [step] using h)
  | receive pkt => exact .inl (by simpa [step] using h)
  | drainEvent => exact .inl (by simpa [step] using h)
  | markDisconnected x now => exact .inl (by simpa [step] using h)
  | markReconnected x => exact .inl h
  | beginTick now => exact .inl h
  | applyCmd =>
    simp only [step, applyCmd] at h
    split at h
    · next cmd ch hrecv =>
      cases cmd with
      | add e =>
        rcases hadd g.toStore e h with hold | hnew
        · exact .inl hold
        · exact .inr (by simpa [added, addedEntity, hrecv] using hnew)
      | remove x => exact .inl (Store.isSome_of_removeEntity h)
    · exact .inl h
  | dispatchNext => exact .inl ((Quiet.dispatchNext H.codec g).maps.entities ▸ h)
  | simulate dt seed order =>
    exact .inl ((Quiet.simulate H.numerics g dt seed order).maps.entities ▸ h)
  | detectZoneBoundaries zid now order =>
    exact .inl ((Quiet.detectZoneBoundaries g zid now order).maps.entities ▸ h)
  | updateVisibility zid order =>
    obtain ⟨aoi, haoi⟩ := (Shows.updateVisibility g zid order).store
    simp only [step, haoi] at h
    exact .inl h
  | sweepGhosts now order => exact .inl ((Quiet.sweepGhosts g now order).maps.entities ▸ h)
  | sweepDisconnected now order =>
    simp only [step, (g.sweepDisconnected_get now order id).1] at h
    split_ifs at h
    · simp at h
    · exact .inl h

/-- Only marks write session records; every other call keeps or deletes them. -/
theorem sessionStates_of_step (H : Host) {g : Game} {c : Call} {id : EntityID} {st : SessionState}
    (hdisc : ∀ x now, c ≠ .markDisconnected x now) (hrec : ∀ x, c ≠ .markReconnected x)
    (h : (step H g c).sessionStates.get id = some st) : g.sessionStates.get id = some st := by
  cases c with
  | assignZone z =>
    obtain heq | ⟨s, -, heq⟩ := step_assignZone H g z <;> rw [heq] at h <;> exact h
  | releaseZone zid =>
    obtain heq | ⟨s, -, heq⟩ := step_releaseZone H g zid <;> rw [heq] at h <;> exact h
  | enqueueAddEntity e =>
    simp only [step, enqueueCmd] at h
    split at h <;> exact h
  | enqueueRemoveEntity x =>
    simp only [step, enqueueCmd] at h
    split at h <;> exact h
  | receive pkt =>
    simp only [step, receive] at h
    split at h <;> exact h
  | drainEvent =>
    simp only [step, drainEvent] at h
    split at h <;> exact h
  | applyCmd =>
    simp only [step, applyCmd] at h
    split at h
    · next cmd _ _ => cases cmd <;> exact h
    · exact h
  | dispatchNext => exact (Quiet.dispatchNext H.codec g).publishes.sessionStates ▸ h
  | simulate dt seed order =>
    exact (Quiet.simulate H.numerics g dt seed order).publishes.sessionStates ▸ h
  | updateVisibility zid order =>
    exact (Shows.updateVisibility g zid order).publishes.sessionStates ▸ h
  | sweepDisconnected now order =>
    simp only [step, (g.sweepDisconnected_get now order id).2] at h
    split_ifs at h
    exact h
  | markDisconnected x now => exact absurd rfl (hdisc x now)
  | markReconnected x => exact absurd rfl (hrec x)
  | _ => exact h

/-! ## The latest event of an identifier -/

inductive SessionEvent where
  | added
  | disconnected (since : Time)
  | reconnected
  deriving DecidableEq, Repr

def sessionEvent (g : Game) : Call → Option (EntityID × SessionEvent)
  | .markDisconnected id now => some (id, .disconnected now)
  | .markReconnected id => some (id, .reconnected)
  | c => (g.added c).map fun id => (id, .added)

/-- A game and the latest event of every identifier. -/
structure Remembered where
  game : Game
  latest : EntityID → Option SessionEvent

namespace Remembered

def new (sid : ServerID) : Remembered := ⟨Game.new sid, fun _ => none⟩

def step (H : Host) (t : Remembered) (c : Call) : Remembered where
  game := t.game.step H c
  latest :=
    match t.game.sessionEvent c with
    | some (id, evt) => Function.update t.latest id (some evt)
    | none => t.latest

/-- Of a live identifier with a disconnect mark, the mark is the latest event. -/
def MarksFresh (t : Remembered) : Prop :=
  ∀ id st, t.game.sessionStates.get id = some st → st.status = .disconnected →
    (t.game.entities.get id).isSome → t.latest id = some (.disconnected st.disconnectedAt)

end Remembered

/-- An identifier is added only while it bears no disconnect mark. -/
def AddsUnmarked (g : Game) (c : Call) : Prop :=
  ∀ id ∈ g.added c, ∀ st ∈ g.sessionStates.get id, st.status ≠ .disconnected

instance (g : Game) (c : Call) : Decidable (g.AddsUnmarked c) :=
  inferInstanceAs (Decidable (∀ id ∈ g.added c, ∀ st ∈ g.sessionStates.get id,
    st.status ≠ .disconnected))

theorem Remembered.marksFresh_step (H : Host) {t : Remembered} {c : Call} (h : t.MarksFresh)
    (hc : t.game.AddsUnmarked c) : (t.step H c).MarksFresh := by
  -- every call but the two marks: the record is an old one, and so is the entity
  have hother : (∀ x now, c ≠ .markDisconnected x now) → (∀ x, c ≠ .markReconnected x) →
      t.game.sessionEvent c = (t.game.added c).map (fun id => (id, .added)) →
      (t.step H c).MarksFresh := by
    intro hdisc hrec hevt id st hst hstatus hlive
    have hold := sessionStates_of_step H hdisc hrec hst
    have hnot : t.game.added c ≠ some id := fun hadd => hc id hadd st hold hstatus
    have hlive' := (isSome_of_step H hlive).resolve_right hnot
    simp only [step, hevt]
    cases hadd : t.game.added c with
    | none => exact h id st hold hstatus hlive'
    | some x =>
      have hne : id ≠ x := by rintro rfl; exact hnot hadd
      simpa [hne] using h id st hold hstatus hlive'
  cases c with
  | markDisconnected x now =>
    intro id st hst hstatus hlive
    have hlive' : (t.game.entities.get id).isSome := by simpa [step, Game.step] using hlive
    simp only [step, Game.step, markDisconnected_sessionStates] at hst
    by_cases hid : id = x
    · subst id
      simp only [hlive', and_self, if_true, Option.some.injEq] at hst
      subst st
      simp [step, sessionEvent]
    · simp only [hid, false_and, if_false] at hst
      simpa [step, sessionEvent, hid] using h id st hst hstatus hlive'
  | markReconnected x =>
    intro id st hst hstatus hlive
    simp only [step, Game.step, Game.markReconnected, Dict.get_set] at hst
    split_ifs at hst with hid
    · cases hst; simp at hstatus
    · simpa [step, sessionEvent, hid] using h id st hst hstatus hlive
  | _ => exact hother (by simp) (by simp) rfl

theorem Remembered.marksFresh_exec (H : Host) (sid : ServerID) {calls : List Call}
    (h : Along (Game.step H) AddsUnmarked (Game.new sid) calls) :
    (exec (step H) (new sid) calls).MarksFresh := by
  have hmarked : Along (step H) (fun t c => t.game.AddsUnmarked c) (new sid) calls :=
    h.lift Remembered.game fun _ _ => rfl
  refine exec_invariant MarksFresh (fun _ _ ht hc => marksFresh_step H ht hc) ?_ hmarked
  intro id st hst
  simp [new, Game.new] at hst

/-- If identifiers are added only while they bear no disconnect mark, a sweep
removes an entity only when the latest event of its identifier is a disconnect
more than the window ago. -/
theorem sweep_removes_only_disconnected (H : Host) (sid : ServerID) (calls : List Call)
    (now : Time) (order : List EntityID) (h : Along (step H) AddsUnmarked (new sid) calls) :
    let t := exec (Remembered.step H) (Remembered.new sid) calls
    ∀ id, (t.game.entities.get id).isSome →
      (t.game.sweepDisconnected now order).entities.get id = none →
      ∃ since, t.latest id = some (.disconnected since) ∧
        now - since > t.game.reconnectWindow := by
  intro t id hlive hgone
  have hfresh : t.MarksFresh := Remembered.marksFresh_exec H sid h
  rw [(t.game.sweepDisconnected_get now order id).1] at hgone
  split_ifs at hgone with hexp
  · unfold expired at hexp
    cases hst : t.game.sessionStates.get id with
    | none => simp [hst] at hexp
    | some st =>
      simp only [hst, decide_eq_true_eq] at hexp
      exact ⟨st.disconnectedAt, hfresh id st hst hexp.1 hlive, hexp.2⟩
  · simp [hgone] at hlive

/-- A client that reconnects in time and leaves for good half a minute later. -/
def leavingCalls : List Call :=
  [.addEntity (Entity.new "e1" "avatar" "s1"), .markDisconnected "e1" (2 * second),
    .markReconnected "e1", .sweepDisconnected (40 * second) [],
    .markDisconnected "e1" (50 * second)]

theorem sweep_removes_only_disconnected_leaving :
    let t := exec (Remembered.step (Host.steady .zero)) (Remembered.new "gs") leavingCalls
    ∃ since, t.latest "e1" = some (.disconnected since) ∧
      81 * second - since > t.game.reconnectWindow :=
  sweep_removes_only_disconnected (Host.steady .zero) "gs" leavingCalls (81 * second) []
    (by decide +kernel) "e1" (by decide +kernel) (by decide +kernel)

/-- The record of a removed entity stays behind. When the identifier is added
again, the next sweep past the old deadline removes the new entity. -/
theorem readded_entity_swept :
    let t := exec (Remembered.step (Host.steady .zero)) (Remembered.new "gs")
      [.addEntity (Entity.new "e1" "avatar" "s1"), .markDisconnected "e1" (2 * second),
        .removeEntity "e1", .addEntity (Entity.new "e1" "avatar" "s1")]
    (t.game.entities.get "e1").isSome ∧
      (t.game.sweepDisconnected (33 * second) []).entities.get "e1" = none ∧
      t.latest "e1" = some .added := by
  decide +kernel

end Game

end SpatialServer
