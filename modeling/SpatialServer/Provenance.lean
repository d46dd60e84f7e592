import SpatialServer.Announcements
import SpatialServer.Motion

/-!
# Where announced positions come from

Observers learn positions from two kinds of events: an entity comes into view, or it
moves. For an entity without a behaviour every such position was put there before: by the
call that added the entity, or by a packet of its own client. The server makes none up,
and shows none that the entity has not had.
-/
namespace SpatialServer

open Runs

@[simp] theorem Store.deriveSpace_lifecycle (sim : ZoneSim) (e : Entity) :
    (deriveSpace sim e).lifecycle = e.lifecycle := by
  unfold deriveSpace
  split
  · split <;> rfl
  · rfl

/-- The event tells where its entity is. -/
def Event.Locates (evt : Event) (id : EntityID) : Prop :=
  evt.entityID = id ∧ (evt.kind = .move ∨ evt.kind = .spawn)

namespace Game

/-- Whoever is added under the identifier has no behaviour. -/
def AddsPlain (id : EntityID) (g : Game) (c : NodeCall) : Prop :=
  ∀ e ∈ g.addedBy c, e.id = id → e.lifecycle = none

variable {H : Host} {g : Game} {id : EntityID}

/-- A call that puts the entity somewhere gives it no behaviour. -/
theorem lifecycle_of_puts {c : NodeCall} {pos : Vector3} (hc : Puts H g id pos c)
    (hadds : AddsPlain id g c) (hplain : ∀ e, g.entityOf id = some e → e.lifecycle = none)
    {e : Entity} (he : (nodeStep H g c).entityOf id = some e) : e.lifecycle = none := by
  cases c with
  | own c =>
    by_cases hdispatch : c = .dispatchNext
    · subst hdispatch
      obtain ⟨⟨pkt, ch⟩, hrecv, rfl, upd, hreq, rfl⟩ := hc
      simp only [nodeStep, step, dispatchNext, Option.mem_def.mp hrecv] at he
      rw [toStore_dispatch, hreq] at he
      obtain ⟨e', he', rfl⟩ := Option.map_eq_some_iff.mp (Store.entityOf_reposition_self _ ▸ he)
      exact hplain e' he'
    · obtain ⟨e', hadded, rfl, -⟩ : ∃ e', g.addedEntity c = some e' ∧ e'.id = id ∧
          e'.position = pos := by
        cases c <;> first | exact hc | exact absurd rfl hdispatch
      simp only [nodeStep] at he
      rw [toStore_step_of_added H hadded] at he
      obtain ⟨sim, hsim⟩ := g.toStore.exists_entityOf_addEntity e'
      cases he.symm.trans hsim
      simpa using hadds e' hadded rfl
  | _ => exact hc.elim

/-- Of an entity without a behaviour nothing is announced by the simulation. -/
theorem publishes_simulate (hn : Named g.toStore)
    (hplain : ∀ e, g.entityOf id = some e → e.lifecycle = none) (N : Numerics) (dt : Duration)
    (seed : EntityID → ℤ) (order : List EntityID) :
    Publishes (fun evt => evt.entityID ≠ id) g (simulate N g dt seed order) := by
  refine (List.foldlRecOn (motive := fun g' : Game => Publishes (fun evt => evt.entityID ≠ id) g g' ∧
    Named g'.toStore ∧ ∀ e, g'.entityOf id = some e → e.lifecycle = none) _ _
    ⟨.refl g, hn, hplain⟩ fun g' hg' key _ => ?_).1
  obtain ⟨hpub, hn', hplain'⟩ := hg'
  refine ⟨hpub.trans ?_, ?_, ?_⟩
  · unfold simulateEntity
    split
    · exact .refl _
    · next r hr =>
      dsimp only
      split_ifs with hlife
      · exact .refl _
      · exact .onStore _
      · refine (Publishes.onStore _).trans (.enqueueMove fun ref obs _ _ hkey => hlife ?_)
        have hkey : key = id := hkey
        subst hkey
        rw [hplain' _ (by simp [Store.entityOf, hr])]
        rfl
  · rw [toStore_simulateEntity]
    exact Store.named_simulated hn' key
  · intro e he
    rw [toStore_simulateEntity] at he
    by_cases hkey : id = key
    · subst hkey
      rw [Store.entityOf_simulated_self] at he
      obtain ⟨e', he', rfl⟩ := Option.map_eq_some_iff.mp he
      rw [Entity.onSimulate, hplain' e' he']
      exact hplain' e' he'
    · rw [Store.entityOf_simulated_ne hn' hkey] at he
      exact hplain' e he

/-- Who comes into view is shown where it is. -/
theorem publishes_updateVisibility (hn : Named g.toStore) (id : EntityID) (zid : ZoneID)
    (order : VisitOrder) :
    Publishes (fun evt => evt.Locates id → ∃ e, g.entityOf id = some e ∧ evt.position = e.position)
      g (g.updateVisibility zid order) := by
  unfold updateVisibility
  split
  · exact .refl g
  · next sim _ =>
    refine (List.foldlRecOn (motive := fun g' : Game => Publishes _ g g' ∧
      ∃ aoi, g'.toStore = { g.toStore with entityAOI := aoi }) _ _
      ⟨.refl g, g.entityAOI, rfl⟩ fun g' hg' key _ => ?_).1
    obtain ⟨hpub, aoi, haoi⟩ := hg'
    obtain ⟨aoi', haoi'⟩ := (Shows.visitObserver sim order g' key).store
    refine ⟨hpub.trans ?_, aoi', by rw [haoi', haoi]⟩
    unfold visitObserver
    split
    · exact .refl _
    · refine ((Publishes.publishAll _ ?_).trans (.publishAll _ ?_)).setAOI _
      · intro evt hevt hlocates
        obtain ⟨x, r, -, -, -, hr, rfl⟩ := exists_of_mem_spawnsFor hevt
        rw [haoi] at hr
        have hname : (g'.objects.cell r).id = x := by
          rw [haoi]
          exact (hn.object x r hr).2
        have hx : x = id := hname.symm.trans hlocates.1
        subst hx
        refine ⟨g.objects.cell r, by simp [Store.entityOf, hr], ?_⟩
        rw [haoi]
        rfl
      · intro evt hevt hlocates
        obtain ⟨x, -, -, rfl⟩ := exists_of_mem_despawnsFor hevt
        exact absurd hlocates.2 (by simp [despawnEvent])

/-- A position that a packet brings is the one its client has sent. -/
theorem publishes_dispatchNext (H : Host) (hn : Named g.toStore) (id : EntityID) :
    Publishes (fun evt => evt.Locates id → Places H g id evt.position .dispatchNext) g
      (g.dispatchNext H.codec) := by
  unfold dispatchNext
  split
  · next pkt ch hrecv =>
    refine (Publishes.of_events_eq rfl rfl rfl rfl rfl : Publishes _ g { g with inbox := ch }).trans ?_
    rw [dispatch_eq_serve]
    rcases hreq : Wire.request H.codec pkt.data with _ | upd | act | ⟨st, payload⟩
    · exact .refl _
    · simp only [serve, dispatchPositionUpdate]
      split
      · exact .refl _
      · next r hr =>
        refine (Publishes.onStore _).trans (.enqueueMove fun ref obs _ _ hlocates => ?_)
        have hid : (g.objects.cell r).id = id := hlocates.1
        have hclient : (g.objects.cell r).id = pkt.clientID := (hn.object _ r hr).2
        exact ⟨_, hrecv, hclient.symm.trans hid, upd, hreq, rfl⟩
    · simp only [serve, dispatchEntityAction_eq]
      exact .refl _
    · refine .dispatchEntityState fun _ _ _ _ _ _ hlocates => absurd hlocates.2 ?_
      simp [stateEvent]
  · exact .refl g

/-- No call gives a behaviour to an entity that has none. -/
theorem lifecycle_nodeStep (hn : Named g.toStore) {c : NodeCall} (hadds : AddsPlain id g c)
    (hplain : ∀ e, g.entityOf id = some e → e.lifecycle = none) :
    ∀ e, (nodeStep H g c).entityOf id = some e → e.lifecycle = none := by
  intro e he
  by_cases hc : ∃ pos, Puts H g id pos c
  · obtain ⟨pos, hput⟩ := hc
    exact lifecycle_of_puts hput hadds hplain he
  · have hc' : ∀ pos, ¬ Puts H g id pos c := by simpa using hc
    obtain ⟨e₀, he₀, rfl | ⟨seed, dt, rfl⟩⟩ := exists_entityOf_before H hn hc' he
    · exact hplain _ he₀
    · rw [Entity.onSimulate, hplain e₀ he₀]
      exact hplain e₀ he₀

/-- An event that locates the entity shows where the call has put it, or where it is. -/
theorem exists_located (H : Host) (hn : Named g.toStore)
    (hplain : ∀ e, g.entityOf id = some e → e.lifecycle = none) (c : NodeCall) :
    ∃ evts, (nodeStep H g c).events.sent = g.events.sent ++ evts ∧ ∀ evt ∈ evts, evt.Locates id →
      Puts H g id evt.position c ∨ (∀ pos, ¬ Puts H g id pos c) ∧
        ∃ e, g.entityOf id = some e ∧ evt.position = e.position := by
  have hnothing : (nodeStep H g c).events.sent = g.events.sent → ∃ evts,
      (nodeStep H g c).events.sent = g.events.sent ++ evts ∧ ∀ evt ∈ evts, evt.Locates id →
        Puts H g id evt.position c ∨ (∀ pos, ¬ Puts H g id pos c) ∧
          ∃ e, g.entityOf id = some e ∧ evt.position = e.position :=
    fun hsent => ⟨[], by simpa using hsent, by simp⟩
  cases c with
  | own c =>
    cases c with
    | dispatchNext =>
      obtain ⟨evts, hsent, hput⟩ := (publishes_dispatchNext H hn id).sent
      exact ⟨evts, hsent, fun evt hevt hlocates => .inl (hput evt hevt hlocates)⟩
    | simulate dt seed order =>
      obtain ⟨evts, hsent, hne⟩ := (publishes_simulate hn hplain H.numerics dt seed order).sent
      exact ⟨evts, hsent, fun evt hevt hlocates => absurd hlocates.1 (hne evt hevt)⟩
    | updateVisibility zid order =>
      obtain ⟨evts, hsent, hshown⟩ := (publishes_updateVisibility hn id zid order).sent
      refine ⟨evts, hsent, fun evt hevt hlocates => .inr ⟨?_, hshown evt hevt hlocates⟩⟩
      rintro pos ⟨_, ⟨⟩, -⟩
    | _ => exact hnothing (silent_step H g _ (by simp) (by simp) (by simp)).1
  | _ => exact hnothing (by rw [(Watched.nodeStep_unseen H g (by simp)).1])

theorem sent_nodeStep (H : Host) (g : Game) (c : NodeCall) :
    g.events.sent <+: (nodeStep H g c).events.sent := by
  have hnothing : (nodeStep H g c).events.sent = g.events.sent →
      g.events.sent <+: (nodeStep H g c).events.sent := fun h => by rw [h]
  cases c with
  | own c =>
    cases c with
    | dispatchNext => exact (Extends.of_quiet (.dispatchNext H.codec g)).sent
    | simulate dt seed order => exact (Extends.of_quiet (.simulate H.numerics g dt seed order)).sent
    | updateVisibility zid order => exact (Extends.of_shows (.updateVisibility g zid order)).sent
    | _ => exact hnothing (silent_step H g _ (by simp) (by simp) (by simp)).1
  | _ => exact hnothing (by rw [(Watched.nodeStep_unseen H g (by simp)).1])

/-- Where a client's entity is seen: it stands where it was last put, by the call that
added it or by a position of its own client, and whenever an observer is told where it
is, it is told where the entity has last been put by then. -/
theorem avatar_is_seen_where_put (H : Host) (sid : ServerID) (calls : List NodeCall)
    (id : EntityID) (hplain : Along (nodeStep H) (AddsPlain id) (new sid) calls) :
    (∀ e, (exec (nodeStep H) (new sid) calls).entityOf id = some e →
      LastPut H sid calls id e.position) ∧
    ∀ (i : ℕ) (evt : Event), (exec (nodeStep H) (new sid) calls).events.sent[i]? = some evt →
      evt.Locates id → ∃ before c after, calls = before ++ c :: after ∧
        (exec (nodeStep H) (new sid) before).events.sent.length ≤ i ∧
        i < (exec (nodeStep H) (new sid) (before ++ [c])).events.sent.length ∧
        LastPut H sid (before ++ [c]) id evt.position := by
  have hkept : ∀ before, Along (nodeStep H) (AddsPlain id) (new sid) before →
      ∀ e, (exec (nodeStep H) (new sid) before).entityOf id = some e → e.lifecycle = none := by
    intro before hbefore
    refine (exec_invariant (fun g : Game => Sound g.toStore ∧
      ∀ e, g.entityOf id = some e → e.lifecycle = none) (fun g c hg hc => ?_)
      ⟨Sound.empty, fun e he => by cases he⟩ hbefore).2
    exact ⟨sound_nodeStep H hg.1 c, lifecycle_nodeStep hg.1.named hc hg.2⟩
  refine ⟨fun e he => lastPut_of_entityOf H sid he (hkept calls hplain e he), ?_⟩
  intro i evt hevt hlocates
  obtain ⟨before, c, after, rfl, hle, hget⟩ := exists_writer (sent_nodeStep H) rfl hevt
  have hplain' := hkept before ((along_append _ _ _).mp hplain).1
  refine ⟨before, c, after, rfl, hle, (List.getElem?_eq_some_iff.mp hget).1, ?_⟩
  obtain ⟨evts, hsent, hput⟩ := exists_located H (sound_exec H sid before).named hplain' c
  rw [exec_append, exec_cons, exec_nil, hsent, List.getElem?_append_right hle] at hget
  rcases hput evt (List.mem_of_getElem? hget) hlocates with hput | ⟨hnone, e, he, hpos⟩
  · exact .of_puts hput
  · rw [hpos]
    exact (lastPut_of_entityOf H sid he (hplain' e he)).snoc hnone

/-- Two clients see each other, and one is told where the other has gone. -/
theorem avatar_is_seen_where_sent :
    let H := Host.steady ⟨3, 0, 0⟩
    let calls : List NodeCall := [.own (.addEntity (Entity.new "c1" "player" "")),
      .own (.addEntity (Entity.new "c2" "player" "")),
      .own (.updateVisibility defaultZoneID .any),
      .own (.receive ⟨"c1", [1, 0, 3, 0, 0, 0, 0, 0]⟩), .own .dispatchNext]
    ∃ evt, (exec (nodeStep H) (new "gs") calls).events.sent[2]? = some evt ∧
      evt.observer = "c2" ∧ evt.position.x = 3 ∧ ∃ before c after, calls = before ++ c :: after ∧
        (exec (nodeStep H) (new "gs") before).events.sent.length ≤ 2 ∧
        2 < (exec (nodeStep H) (new "gs") (before ++ [c])).events.sent.length ∧
        LastPut H "gs" (before ++ [c]) "c1" evt.position := by
  intro H calls
  have hplain : Along (nodeStep H) (AddsPlain "c1") (new "gs") calls := by
    refine .of_forall_mem fun g c hc e he _ => ?_
    simp only [calls, List.mem_cons, List.not_mem_nil, or_false] at hc
    rcases hc with rfl | rfl | rfl | rfl | rfl <;> cases he <;> rfl
  obtain ⟨evt, hevt⟩ : ∃ evt, (exec (nodeStep H) (new "gs") calls).events.sent[2]? = some evt :=
    Option.isSome_iff_exists.mp (by decide +kernel)
  have hread : (exec (nodeStep H) (new "gs") calls).events.sent[2]?.map
      (fun evt => (evt.observer, evt.position.x, evt.entityID, evt.kind)) =
        some ("c2", 3, "c1", .move) := by decide +kernel
  rw [hevt, Option.map_some, Option.some.injEq] at hread
  simp only [Prod.mk.injEq] at hread
  obtain ⟨hobs, hx, hid, hkind⟩ := hread
  refine ⟨evt, hevt, hobs, hx, ?_⟩
  exact (avatar_is_seen_where_put H "gs" calls "c1" hplain).2 2 evt hevt ⟨hid, .inl hkind⟩

end Game

end SpatialServer
