import Brawololo.DefeatedPlayers
import Brawololo.HostSimulation
import Brawololo.IdReuse

/-!
The life of a projectile. Every tick moves it once, and in that turn it ends by
age, by leaving the map or by hitting a living player other than its owner; it
is gone after the tick exactly if it ended. Until the id counter wraps no other
entity ever has its id.
-/

namespace Brawololo.ProjectileLifecycle

open GameTypes EntityStore Simulation Simulation.GameSimulation SimulationStages EntityIdentity
open SimulationSnapshots AreaOfInterest RowRules DefeatedPlayers HostSimulation Runs

/-! Hits. -/

def hitOf : DomainEvent → Option HitConfirmed
  | .hitConfirmed hit => some hit
  | _ => none

theorem hit_of_some {event : DomainEvent} {hit : HitConfirmed} (isHit : hitOf event = some hit) :
    event = .hitConfirmed hit := by
  cases event with
  | hitConfirmed other =>
      cases isHit
      rfl
  | _ => cases isHit

/-- The projectiles that the events tell to have hit, in order. -/
def hitIds (events : EventList) : List NetworkEntityId :=
  (events.filterMap hitOf).map fun hit => hit.projectileId

theorem hit_ids_append (first second : EventList) :
    hitIds (first ++ second) = hitIds first ++ hitIds second := by
  simp [hitIds]

theorem hit_ids_silent {events : EventList} (silent : ∀ event ∈ events, hitOf event = none) :
    hitIds events = [] := by
  unfold hitIds
  rw [List.filterMap_eq_nil_iff.mpr silent]
  rfl

/-- The one hit that damage tells of: by the projectile, for its owner, on the
target, which is not the owner. -/
theorem damage_hit (config : SimulationConfig) (timeMs : TimestampMs)
    (projectileId : NetworkEntityId) {projectile : ProjectileComponent}
    {transform : TransformComponent} {target : Components}
    (strikes : hits projectile transform target = true) :
    ∃ hit, (damagePlayer config timeMs projectileId projectile target).2.filterMap hitOf = [hit] ∧
      hit.projectileId = projectileId ∧ hit.attackerId = projectile.ownerId ∧
      hit.targetId ≠ projectile.ownerId ∧ target.identity = some { id := hit.targetId } := by
  unfold hits at strikes
  split at strikes
  · next identity player place named isPlayer _ =>
      have foreign : identity.id ≠ projectile.ownerId := by
        simp only [Bool.and_eq_true, decide_eq_true_eq] at strikes
        exact strikes.1.1
      unfold damagePlayer
      rw [named, isPlayer]
      dsimp only
      split
      · exact ⟨_, rfl, rfl, rfl, foreign, rfl⟩
      · exact ⟨_, rfl, rfl, rfl, foreign, rfl⟩
  · cases strikes

/-! A turn of the loop. -/

section Turns

variable (targets : List Entity)

/-- A turn of another projectile leaves a row that is no player alone. -/
theorem turn_spares (sim : GameSimulation) (toDestroy : List Entity) (entity : Entity)
    {other : Entity} {row : Components} (different : other ≠ entity)
    (present : sim.registry.get? other = some row) (noPlayer : row.player = none) :
    (processProjectile targets (sim, toDestroy) entity).1.registry.get? other = some row ∧
      (other ∈ (processProjectile targets (sim, toDestroy) entity).2 ↔ other ∈ toDestroy) := by
  have flown : (sim.updateEntity (fun row => (fly sim.config row, []))
      entity).registry.get? other = some row := by
    rw [update_entity_row, if_neg different, present]
  have listed : other ∈ toDestroy ++ [entity] ↔ other ∈ toDestroy := by
    simp [different]
  have turn := process_projectile_turn targets sim toDestroy entity
  generalize processProjectile targets (sim, toDestroy) entity = result at turn ⊢
  cases turn with
  | skipped => exact ⟨present, Iff.rfl⟩
  | gone => exact ⟨flown, listed⟩
  | flew => exact ⟨flown, Iff.rfl⟩
  | struck _ identity projectile transform target targetRow _ _ _ _ _ found hit =>
      refine ⟨?_, listed⟩
      -- What is hit is a player.
      have notTarget : other ≠ target := by
        rintro rfl
        rw [flown] at found
        cases found
        have living := (hits_living hit).1
        rw [noPlayer] at living
        cases living
      rw [update_entity_row, if_neg notTarget, flown]

theorem turns_spare (entities : List Entity) (state : GameSimulation × List Entity)
    {other : Entity} {row : Components} (absent : other ∉ entities)
    (present : state.1.registry.get? other = some row) (noPlayer : row.player = none) :
    (entities.foldl (processProjectile targets) state).1.registry.get? other = some row ∧
      (other ∈ (entities.foldl (processProjectile targets) state).2 ↔ other ∈ state.2) := by
  induction entities generalizing state with
  | nil => exact ⟨present, Iff.rfl⟩
  | cons entity rest ih =>
      rw [List.mem_cons, not_or] at absent
      obtain ⟨kept, listed⟩ :=
        turn_spares targets state.1 state.2 entity absent.1 present noPlayer
      obtain ⟨keptOn, listedOn⟩ := ih (processProjectile targets state entity) absent.2 kept
      exact ⟨keptOn, listedOn.trans listed⟩

/-- What a projectile does in its own turn, with the events that tell of it. -/
inductive OwnTurn (sim : GameSimulation) (toDestroy : List Entity) (entity : Entity)
    (row : Components) (projectile : ProjectileComponent) (transform : TransformComponent) :
    List Entity → EventList → Prop
  | ended (gone : projectileGone sim.config sim.timeMs projectile transform = true) :
      OwnTurn sim toDestroy entity row projectile transform (toDestroy ++ [entity]) []
  | flew (stays : projectileGone sim.config sim.timeMs projectile transform = false) :
      OwnTurn sim toDestroy entity row projectile transform toDestroy []
  | struck (identity : NetworkIdentityComponent) (target : Entity) (targetRow : Components)
      (stays : projectileGone sim.config sim.timeMs projectile transform = false)
      (named : row.identity = some identity)
      (found : sim.registry.get? target = some targetRow)
      (hit : hits projectile transform targetRow = true) :
      OwnTurn sim toDestroy entity row projectile transform (toDestroy ++ [entity])
        (damagePlayer sim.config sim.timeMs identity.id projectile targetRow).2

/-- The turn of a projectile leaves its row flown. -/
theorem own_turn (sim : GameSimulation) (toDestroy : List Entity) (entity : Entity)
    {row : Components} {projectile : ProjectileComponent} {transform : TransformComponent}
    (present : sim.registry.get? entity = some row) (noPlayer : row.player = none)
    (viewed : inProjectileView row = true) (carries : row.projectile = some projectile)
    (flown : (fly sim.config row).transform = some transform) :
    ∃ added, Queued sim (processProjectile targets (sim, toDestroy) entity).1 added ∧
      (processProjectile targets (sim, toDestroy) entity).1.registry.get? entity =
        some (fly sim.config row) ∧
      OwnTurn sim toDestroy entity row projectile transform
        (processProjectile targets (sim, toDestroy) entity).2 added := by
  have silent := update_entity_quiet (fly sim.config) sim entity
  have moved : (sim.updateEntity (fun row => (fly sim.config row, []))
      entity).registry.get? entity = some (fly sim.config row) := by
    rw [update_entity_row, if_pos rfl, present]
    rfl
  have turn := process_projectile_turn targets sim toDestroy entity
  generalize processProjectile targets (sim, toDestroy) entity = result at turn ⊢
  have same {other : Components} {own : ProjectileComponent} {place : TransformComponent}
      (isRow : sim.registry.get? entity = some other) (isOwn : other.projectile = some own)
      (isPlace : (fly sim.config other).transform = some place) :
      other = row ∧ own = projectile ∧ place = transform := by
    cases present.symm.trans isRow
    exact ⟨rfl, Option.some.inj (isOwn.symm.trans carries),
      Option.some.inj (isPlace.symm.trans flown)⟩
  cases turn with
  | skipped absent =>
      rw [absent row present] at viewed
      cases viewed
  | gone other own place isRow isOwn isPlace leaves =>
      obtain ⟨rfl, rfl, rfl⟩ := same isRow isOwn isPlace
      exact ⟨[], silent, moved, .ended leaves⟩
  | flew other own place isRow isOwn isPlace stays =>
      obtain ⟨rfl, rfl, rfl⟩ := same isRow isOwn isPlace
      exact ⟨[], silent, moved, .flew stays⟩
  | struck other identity own place target targetRow isRow isOwn isPlace stays aimed found hit named =>
      obtain ⟨rfl, rfl, rfl⟩ := same isRow isOwn isPlace
      -- The target is a player, so it is another row, which the flight left alone.
      have apart : target ≠ entity := by
        rintro rfl
        rw [moved] at found
        cases found
        obtain ⟨_, flies, _⟩ := fly_changes sim.config other
        have isPlayer := (hits_living hit).1
        rw [flies] at isPlayer
        have player : other.player.isSome := isPlayer
        rw [noPlayer] at player
        cases player
      have damaged := update_entity_queued
        (damagePlayer sim.config sim.timeMs identity.id own)
        (sim.updateEntity (fun row => (fly sim.config row, [])) entity) target
      rw [found] at damaged
      refine ⟨_, silent.trans damaged, ?_, .struck identity target targetRow stays named ?_ hit⟩
      · rw [update_entity_row, if_neg (Ne.symm apart), moved]
      · rw [update_entity_row, if_neg apart] at found
        exact found

/-- In the whole loop the turn of a projectile is the only one that concerns it. -/
theorem turn_in_loop (sim : GameSimulation) (turns rest : List Entity) (entity : Entity)
    (distinct : (turns ++ entity :: rest).Nodup) {row : Components}
    {projectile : ProjectileComponent} {transform : TransformComponent}
    (present : sim.registry.get? entity = some row) (noPlayer : row.player = none)
    (viewed : inProjectileView row = true) (carries : row.projectile = some projectile)
    (flown : (fly sim.config row).transform = some transform)
    {during after : GameSimulation × List Entity}
    (isDuring : during = turns.foldl (processProjectile targets) (sim, []))
    (isAfter : after = (turns ++ entity :: rest).foldl (processProjectile targets) (sim, [])) :
    ∃ added listed, Queued during.1 (processProjectile targets during entity).1 added ∧
      OwnTurn during.1 during.2 entity row projectile transform listed added ∧
      after.1.registry.get? entity = some (fly sim.config row) ∧
      (entity ∈ after.2 ↔ entity ∈ listed) ∧ entity ∉ during.2 := by
  obtain ⟨_, distinctRest, disjoint⟩ := List.nodup_append.mp distinct
  have notBefore : entity ∉ turns := fun member =>
    disjoint entity member entity List.mem_cons_self rfl
  obtain ⟨kept, unlisted⟩ := turns_spare targets turns (sim, []) notBefore present noPlayer
  have tables := projectile_loop_tables targets turns (sim, [])
  rw [← isDuring] at kept unlisted tables
  have configured : during.1.config = sim.config := tables.config
  have flies : (fly during.1.config row).transform = some transform := by
    rw [configured]
    exact flown
  obtain ⟨added, queued, moved, own⟩ :=
    own_turn targets during.1 during.2 entity kept noPlayer viewed carries flies
  rw [configured] at moved
  have stillNoPlayer : (fly sim.config row).player = none := by
    obtain ⟨_, flies, _⟩ := fly_changes sim.config row
    rw [flies]
    exact noPlayer
  obtain ⟨stays, listed⟩ := turns_spare targets rest (processProjectile targets during entity)
    (List.nodup_cons.mp distinctRest).1 moved stillNoPlayer
  have later : after = rest.foldl (processProjectile targets)
      (processProjectile targets during entity) := by
    rw [isAfter, isDuring, List.foldl_append]
    rfl
  rw [← later] at stays listed
  exact ⟨added, _, queued, own, stays, listed, by rw [unlisted]; simp⟩

end Turns

/-! The projectiles of a tick. -/

def InsideMap (config : SimulationConfig) (place : TransformComponent) : Prop :=
  0 ≤ place.x ∧ 0 ≤ place.y ∧
    place.x < mapWidthFixed config.map ∧ place.y < mapHeightFixed config.map

/-- The projectile is too old or has left the map. -/
def Over (config : SimulationConfig) (timeMs : TimestampMs) (projectile : ProjectileComponent)
    (place : TransformComponent) : Prop :=
  projectile.expiresAtMs ≤ timeMs ∨ ¬ InsideMap config place

theorem projectile_gone_iff (config : SimulationConfig) (timeMs : TimestampMs)
    (projectile : ProjectileComponent) (place : TransformComponent) :
    projectileGone config timeMs projectile place = true ↔
      Over config timeMs projectile place := by
  simp only [projectileGone, Over, InsideMap, Bool.or_eq_true, decide_eq_true_eq, not_and_or,
    Int32.not_le, Int32.not_lt, or_assoc]

/-- In its turn the projectile hits a living player, who is not its owner. -/
structure Strikes (order : LoopOrder) (sim : GameSimulation) (entity : Entity) (row : Components)
    (projectile : ProjectileComponent) (hit : HitConfirmed) : Prop where
  turn : ∃ turns rest target targetRow, flights order sim = turns ++ entity :: rest ∧
    (afterTurns order sim turns).1.registry.get? target = some targetRow ∧ Living targetRow ∧
    targetRow.identity = some { id := hit.targetId }
  named : row.identity = some { id := hit.projectileId }
  attacker : hit.attackerId = projectile.ownerId
  foreign : hit.targetId ≠ projectile.ownerId

/-- What becomes in a tick of a projectile that flies to `place`, and the hits
that its turn tells of. -/
inductive Fate (order : LoopOrder) (sim : GameSimulation) (entity : Entity) (row : Components)
    (projectile : ProjectileComponent) (place : TransformComponent) : List HitConfirmed → Prop
  | ended (isOver : Over sim.config (advanceClock sim).timeMs projectile place)
      (gone : (tickFixed order sim).registry.get? entity = none) :
      Fate order sim entity row projectile place []
  | flew (within : ¬ Over sim.config (advanceClock sim).timeMs projectile place)
      (stays : (tickFixed order sim).registry.get? entity = some (fly sim.config row)) :
      Fate order sim entity row projectile place []
  | struck (within : ¬ Over sim.config (advanceClock sim).timeMs projectile place)
      (hit : HitConfirmed) (strikes : Strikes order sim entity row projectile hit)
      (told : .hitConfirmed hit ∈ (tickFixed order sim).events.drop sim.events.length)
      (gone : (tickFixed order sim).registry.get? entity = none) :
      Fate order sim entity row projectile place [hit]

section Tick

variable (order : LoopOrder) (sim : GameSimulation)

theorem before_flights_setup : (beforeFlights order sim).config = sim.config ∧
    (beforeFlights order sim).timeMs = (advanceClock sim).timeMs := by
  have inputs := process_inputs_tables order (advanceClock sim)
  have warmups := process_warmups_setup order (processInputs order (advanceClock sim))
  exact ⟨warmups.config.trans inputs.config, warmups.timeMs.trans inputs.timeMs⟩

/-- What every row of a server needs to fly. -/
structure Airworthy (row : Components) : Prop where
  body : row.identity.isSome ∧ row.transform.isSome ∧ row.velocity.isSome
  apart : row.player.isSome → row.projectile = none

theorem Airworthy.noPlayer {row : Components} (fit : Airworthy row)
    {projectile : ProjectileComponent} (carries : row.projectile = some projectile) :
    row.player = none := by
  cases isPlayer : row.player with
  | none => rfl
  | some player =>
      rw [fit.apart (by rw [isPlayer]; rfl)] at carries
      cases carries

/-- The row of a projectile after the turns is the one after the tick, unless it is listed. -/
theorem projectile_after_tick {entity : Entity} {row : Components} (noPlayer : row.player = none)
    {looped : GameSimulation × List Entity}
    (isLoop : looped = (flights order sim).foldl
      (processProjectile ((beforeFlights order sim).registry.view order .projectileTargets
        inTargetView)) (beforeFlights order sim, []))
    (flown : looped.1.registry.get? entity = some row) :
    (entity ∈ looped.2 → (tickFixed order sim).registry.get? entity = none) ∧
      (entity ∉ looped.2 → (tickFixed order sim).registry.get? entity = some row) := by
  have stage : beforeRespawns order sim = looped.2.foldl destroyProjectile looped.1 := by
    rw [isLoop]
    rfl
  have last : (tickFixed order sim).registry.get? entity =
      ((beforeRespawns order sim).registry.get? entity).map _ :=
    process_respawns_row order (beforeRespawns order sim) entity
  rw [last, stage]
  constructor
  · intro listed
    rw [listed_destroyed order (beforeFlights order sim) looped isLoop listed]
    rfl
  · intro spared
    have unseen : inRespawnView row = false := by simp [inRespawnView, noPlayer]
    rw [destroy_all_row _ _ entity spared, flown, Option.map_some, unseen]
    rfl

/-- The events of a turn are among those of the tick. -/
theorem turn_told {turns rest : List Entity} {entity : Entity}
    (visited : flights order sim = turns ++ entity :: rest) {added : EventList}
    (queued : Queued (afterTurns order sim turns).1
      (afterTurns order sim (turns ++ [entity])).1 added) :
    ∀ event ∈ added, event ∈ (tickFixed order sim).events.drop sim.events.length := by
  have turned (entities : List Entity) (state : GameSimulation × List Entity) :
      Appends state.1 (entities.foldl (processProjectile
        ((beforeFlights order sim).registry.view order .projectileTargets inTargetView)) state).1 :=
    run_relates _ (fun before after => Appends before.1 after.1) (fun _ => Appends.refl _)
      Appends.trans
      (fun state entity => (process_projectile_queues state.1 _ state.2 entity).appends)
      state entities
  have inputs : Appends sim (processInputs order (advanceClock sim)) :=
    (process_inputs_queues order (advanceClock sim)).appends
  obtain ⟨first, before⟩ := (inputs.trans (process_warmups_queues order _).appends).trans
    (turned turns (beforeFlights order sim, []))
  obtain ⟨last, after⟩ : Appends (afterTurns order sim (turns ++ [entity])).1
      (tickFixed order sim) := by
    obtain ⟨later, loops⟩ := turned rest (afterTurns order sim (turns ++ [entity]))
    have looped : Queued (afterTurns order sim (turns ++ [entity])).1
        (beforeRespawns order sim) later := by
      unfold afterTurns at loops ⊢
      rw [← List.foldl_append, List.append_assoc, List.singleton_append, ← visited] at loops
      exact (destroy_all_silent _ _).trans loops
    exact Appends.trans ⟨later, looped⟩ (process_respawns_queues order _).appends
  have whole : (tickFixed order sim).events = sim.events ++ (first ++ added ++ last) :=
    (before.trans queued).trans after
  intro event member
  rw [whole, List.drop_left]
  exact List.mem_append_left last (List.mem_append_right first member)

theorem after_turns_setup (turns : List Entity) :
    (afterTurns order sim turns).1.config = sim.config ∧
      (afterTurns order sim turns).1.timeMs = (advanceClock sim).timeMs := by
  obtain ⟨configured, timed⟩ := before_flights_setup order sim
  have tables := projectile_loop_tables
    ((beforeFlights order sim).registry.view order .projectileTargets inTargetView) turns
    (beforeFlights order sim, [])
  exact ⟨tables.config.trans configured, tables.timeMs.trans timed⟩

/-- A turn with a hit is a strike. -/
theorem own_turn_strikes {turns rest : List Entity} {entity : Entity}
    (visited : flights order sim = turns ++ entity :: rest) {row : Components}
    {projectile : ProjectileComponent} {place : TransformComponent}
    {identity : NetworkIdentityComponent} {target : Entity} {targetRow : Components}
    (named : row.identity = some identity)
    (found : (afterTurns order sim turns).1.registry.get? target = some targetRow)
    (isHit : hits projectile place targetRow = true) :
    ∃ hit, (damagePlayer (afterTurns order sim turns).1.config
        (afterTurns order sim turns).1.timeMs identity.id projectile targetRow).2.filterMap hitOf =
      [hit] ∧ Strikes order sim entity row projectile hit := by
  obtain ⟨hit, only, isProjectile, attacker, foreign, isTarget⟩ := damage_hit
    (afterTurns order sim turns).1.config (afterTurns order sim turns).1.timeMs identity.id isHit
  refine ⟨hit, only, ⟨turns, rest, target, targetRow, visited, found, hits_living isHit, isTarget⟩,
    ?_, attacker, foreign⟩
  rw [isProjectile]
  exact named

theorem turn_fate {turns rest : List Entity} {entity : Entity}
    (visited : flights order sim = turns ++ entity :: rest) {row : Components}
    {projectile : ProjectileComponent} (fit : Airworthy row)
    (present : (beforeFlights order sim).registry.get? entity = some row)
    (carries : row.projectile = some projectile) :
    ∃ place added, (fly sim.config row).transform = some place ∧
      Queued (afterTurns order sim turns).1 (afterTurns order sim (turns ++ [entity])).1 added ∧
      Fate order sim entity row projectile place (added.filterMap hitOf) := by
  have noPlayer := fit.noPlayer carries
  obtain ⟨named, placed, moving⟩ := fit.body
  have viewed : inProjectileView row = true := by
    simp [inProjectileView, named, placed, moving, carries]
  have distinct : (turns ++ entity :: rest).Nodup :=
    visited ▸ (beforeFlights order sim).registry.nodup_view order .projectiles inProjectileView
  obtain ⟨place, isPlace⟩ : ∃ place, (fly sim.config row).transform = some place := by
    obtain ⟨_, moved, stillPlaced⟩ := fly_changes sim.config row
    rw [← stillPlaced] at placed
    obtain ⟨place, isPlace⟩ := Option.isSome_iff_exists.mp placed
    exact ⟨place, by rw [moved]; exact isPlace⟩
  have configured := (before_flights_setup order sim).1
  have isDuring : afterTurns order sim turns = turns.foldl (processProjectile
      ((beforeFlights order sim).registry.view order .projectileTargets inTargetView))
      (beforeFlights order sim, []) := rfl
  -- The other turns of the loop touch neither the row nor the list entry of this one.
  obtain ⟨added, listed, queued, own, stays, ends, unlisted⟩ := turn_in_loop
    ((beforeFlights order sim).registry.view order .projectileTargets inTargetView)
    (beforeFlights order sim) turns rest entity distinct present noPlayer viewed carries
    (configured ▸ isPlace) isDuring rfl
  rw [configured, ← visited] at stays
  rw [← visited] at ends
  have flownPlayer : (fly sim.config row).player = none := by
    obtain ⟨_, flies, _⟩ := fly_changes sim.config row
    rw [flies]
    exact noPlayer
  obtain ⟨gone, kept⟩ := projectile_after_tick order sim flownPlayer rfl stays
  rw [ends] at gone kept
  have next : (afterTurns order sim (turns ++ [entity])).1 =
      (processProjectile ((beforeFlights order sim).registry.view order .projectileTargets
        inTargetView) (afterTurns order sim turns) entity).1 := by
    unfold afterTurns
    rw [List.foldl_append]
    rfl
  rw [← next] at queued
  have told := turn_told order sim visited queued
  obtain ⟨sameConfig, sameTime⟩ := after_turns_setup order sim turns
  have within (isWithin : projectileGone (afterTurns order sim turns).1.config
      (afterTurns order sim turns).1.timeMs projectile place = false) :
      ¬ Over sim.config (advanceClock sim).timeMs projectile place := by
    rw [← projectile_gone_iff, ← sameConfig, ← sameTime, isWithin]
    exact Bool.false_ne_true
  refine ⟨place, added, isPlace, queued, ?_⟩
  cases own with
  | ended isOver =>
      rw [projectile_gone_iff, sameConfig, sameTime] at isOver
      exact .ended isOver (gone (List.mem_append_right _ List.mem_cons_self))
  | flew isWithin => exact .flew (within isWithin) (kept unlisted)
  | struck identity target targetRow isWithin isNamed found isHit =>
      obtain ⟨hit, only, strikes⟩ := own_turn_strikes order sim visited isNamed found isHit
      have isTold : .hitConfirmed hit ∈ (damagePlayer (afterTurns order sim turns).1.config
          (afterTurns order sim turns).1.timeMs identity.id projectile targetRow).2 := by
        have member : hit ∈ [hit] := List.mem_singleton_self hit
        rw [← only] at member
        obtain ⟨event, isEvent, isHitOf⟩ := List.mem_filterMap.mp member
        exact hit_of_some isHitOf ▸ isEvent
      rw [only]
      exact .struck (within isWithin) hit strikes (told _ isTold)
        (gone (List.mem_append_right _ List.mem_cons_self))

theorem flights_iff (fits : EveryRow Airworthy (beforeFlights order sim)) (entity : Entity) :
    entity ∈ flights order sim ↔ ∃ row projectile,
      (beforeFlights order sim).registry.get? entity = some row ∧
        row.projectile = some projectile := by
  unfold flights
  rw [Registry.mem_view]
  constructor
  · rintro ⟨row, present, viewed⟩
    obtain ⟨_, projectile, _, _, _, carries, _⟩ := (in_projectile_view_iff row).mp viewed
    exact ⟨row, projectile, present, carries⟩
  · rintro ⟨row, projectile, present, carries⟩
    obtain ⟨named, placed, moving⟩ := (fits entity row present).body
    exact ⟨row, present, by simp [inProjectileView, named, placed, moving, carries]⟩

/-- A projectile hits in the tick and is gone after it. -/
def Struck (entity : Entity) (hit : HitConfirmed) : Prop :=
  ∃ row projectile, (beforeFlights order sim).registry.get? entity = some row ∧
    row.projectile = some projectile ∧ Strikes order sim entity row projectile hit ∧
    (tickFixed order sim).registry.get? entity = none

/-- The hits that the events tell of are made by projectiles of the list, in its order. -/
def HitsBy (entities : List Entity) (added : EventList) : Prop :=
  ∃ strikes : List (Entity × HitConfirmed), added.filterMap hitOf = strikes.map Prod.snd ∧
    (strikes.map Prod.fst).Sublist entities ∧
    ∀ entity hit, (entity, hit) ∈ strikes → Struck order sim entity hit

theorem turns_hits (fits : EveryRow Airworthy (beforeFlights order sim)) (rest turns : List Entity)
    (visited : flights order sim = turns ++ rest) :
    ∃ added, Queued (afterTurns order sim turns).1 (afterTurns order sim (turns ++ rest)).1 added ∧
      HitsBy order sim rest added := by
  induction rest generalizing turns with
  | nil =>
      refine ⟨[], ?_, [], rfl, List.Sublist.refl [], fun _ _ member => (by cases member)⟩
      unfold Queued
      rw [List.append_nil, List.append_nil]
  | cons entity rest ih =>
      have member : entity ∈ flights order sim := by
        rw [visited]
        exact List.mem_append_right turns List.mem_cons_self
      obtain ⟨row, projectile, present, carries⟩ := (flights_iff order sim fits entity).mp member
      obtain ⟨place, first, _, queued, fate⟩ :=
        turn_fate order sim visited (fits entity row present) present carries
      obtain ⟨added, later, strikes, only, sublist, struck⟩ :=
        ih (turns ++ [entity]) (by rw [visited, List.append_assoc]; rfl)
      rw [List.append_assoc, List.singleton_append] at later
      refine ⟨first ++ added, queued.trans later, ?_⟩
      have silent (none : first.filterMap hitOf = []) :
          HitsBy order sim (entity :: rest) (first ++ added) := by
        refine ⟨strikes, ?_, sublist.cons entity, struck⟩
        rw [List.filterMap_append, none, only, List.nil_append]
      generalize isTold : first.filterMap hitOf = told at fate
      cases fate with
      | ended => exact silent isTold
      | flew => exact silent isTold
      | struck _ hit isStrike _ gone =>
          refine ⟨(entity, hit) :: strikes, ?_, sublist.cons_cons entity, ?_⟩
          · rw [List.filterMap_append, isTold, only]
            rfl
          · intro other otherHit either
            rcases List.mem_cons.mp either with isFirst | isLater
            · cases isFirst
              exact ⟨row, projectile, present, carries, isStrike, gone⟩
            · exact struck other otherHit isLater

/-- The other stages tell of no hit. -/
theorem tick_hits (fits : EveryRow Airworthy (beforeFlights order sim)) :
    ∃ added, Queued sim (tickFixed order sim) added ∧
      HitsBy order sim (flights order sim) added := by
  obtain ⟨inputs, queuedInputs, areInputs⟩ := process_inputs_queues order (advanceClock sim)
  obtain ⟨shots, queuedShots, areShots⟩ :=
    process_warmups_queues order (processInputs order (advanceClock sim))
  obtain ⟨struck, queuedHits, strikes, only, sublist, isStruck⟩ :=
    turns_hits order sim fits (flights order sim) [] rfl
  obtain ⟨respawns, queuedRespawns, areRespawns⟩ :=
    process_respawns_queues order (beforeRespawns order sim)
  have queuedFlights : Queued (beforeFlights order sim) (beforeRespawns order sim) struck :=
    (destroy_all_silent _ _).trans queuedHits
  have noInput : inputs.filterMap hitOf = [] := by
    refine List.filterMap_eq_nil_iff.mpr fun event member => ?_
    rcases areInputs event member with ⟨_, rfl⟩ | ⟨_, rfl⟩
    · rfl
    · rfl
  have noShot : shots.filterMap hitOf = [] := by
    refine List.filterMap_eq_nil_iff.mpr fun event member => ?_
    rcases areShots event member with ⟨_, rfl⟩ | ⟨_, rfl⟩
    · rfl
    · rfl
  have noRespawn : respawns.filterMap hitOf = [] := by
    refine List.filterMap_eq_nil_iff.mpr fun event member => ?_
    obtain ⟨_, rfl⟩ := areRespawns event member
    rfl
  refine ⟨_, ((queuedInputs.trans queuedShots).trans queuedFlights).trans queuedRespawns,
    strikes, ?_, sublist, isStruck⟩
  simp [noInput, noShot, noRespawn, only]

/-! Before and after the turns. -/

/-- A row without a player is not moved by the inputs. -/
theorem moved_row_unmoved (entity : Entity) {row : Components} (noPlayer : row.player = none) :
    ∃ aim weapon, movedRow sim entity row =
      { row with aim := aim, weapon := weapon, inputIntent := none } := by
  obtain ⟨intent, aim, weapon, applied⟩ :=
    apply_inputs_changes sim.config sim.timeMs (inputsFor sim entity) row
  refine ⟨aim, weapon, ?_⟩
  unfold movedRow
  rw [applied]
  dsimp only
  rw [noPlayer]
  rfl

/-- What a flight depends on in a row. -/
structure SameFlight (row later : Components) : Prop where
  identity : later.identity = row.identity
  projectile : later.projectile = row.projectile
  transform : later.transform = row.transform
  velocity : later.velocity = row.velocity

/-- The inputs and the warmups of a tick leave the projectiles alone. -/
theorem reaches_flights {entity : Entity} {row : Components}
    (present : sim.registry.get? entity = some row) (noPlayer : row.player = none) :
    ∃ later, (beforeFlights order sim).registry.get? entity = some later ∧
      SameFlight row later := by
  obtain ⟨aim, weapon, moved⟩ := moved_row_unmoved (advanceClock sim) entity noPlayer
  have isMoved : (processInputs order (advanceClock sim)).registry.get? entity =
      some (movedRow (advanceClock sim) entity row) := by
    have own : (advanceClock sim).registry.get? entity = some row := present
    rw [process_inputs_row, own]
    rfl
  rw [moved] at isMoved
  generalize isStart : processInputs order (advanceClock sim) = start at isMoved
  have finishes : RowsRelated SameFlight start (start.forEachEntity order .weaponWarmups inWarmupView
      (finishWarmup start.config start.timeMs)) := by
    apply for_each_rows fun _ => ⟨rfl, rfl, rfl, rfl⟩
    intro row
    obtain ⟨_, finished⟩ := finish_warmup_changes start.config start.timeMs row
    rw [finished]
    exact ⟨rfl, rfl, rfl, rfl⟩
  obtain ⟨later, found, same⟩ := finishes.forward isMoved
  refine ⟨later, ?_, same.identity, same.projectile, same.transform, same.velocity⟩
  unfold beforeFlights processWeaponWarmups
  rw [isStart]
  exact create_all_kept _ _ found

theorem tick_time : (tickFixed order sim).timeMs = (advanceClock sim).timeMs :=
  tick_advances order sim

/-- A projectile that is there after the tick was there before the flights. -/
theorem projectile_before_flights {entity : Entity} {later : Components}
    (found : (tickFixed order sim).registry.get? entity = some later) :
    ∃ row, (beforeFlights order sim).registry.get? entity = some row ∧
      later.projectile = row.projectile := by
  obtain ⟨row, present, standing⟩ :=
    (process_respawns_standing order (beforeRespawns order sim)).backward found
  rcases destroy_all_cases _ _ entity with gone | kept
  · exact absurd (present.symm.trans gone) (by simp)
  · obtain ⟨first, isFirst, same⟩ :=
      (projectile_loop_standing _ _ (beforeFlights order sim)).backward (kept.symm.trans present)
    exact ⟨first, isFirst, standing.projectile.trans same.projectile⟩

theorem projectile_alive (fits : EveryRow Airworthy (beforeFlights order sim)) {entity : Entity}
    {later : Components} {projectile : ProjectileComponent}
    (found : (tickFixed order sim).registry.get? entity = some later)
    (carries : later.projectile = some projectile) :
    ∃ place, later.transform = some place ∧
      (tickFixed order sim).timeMs < projectile.expiresAtMs ∧ InsideMap sim.config place := by
  obtain ⟨row, present, same⟩ := projectile_before_flights order sim found
  rw [carries] at same
  have visited := (flights_iff order sim fits entity).mpr ⟨row, projectile, present, same.symm⟩
  obtain ⟨turns, rest, isSplit⟩ := List.append_of_mem visited
  obtain ⟨place, added, isPlace, _, fate⟩ :=
    turn_fate order sim isSplit (fits entity row present) present same.symm
  have flew : later = fly sim.config row ∧
      ¬ Over sim.config (advanceClock sim).timeMs projectile place := by
    generalize added.filterMap hitOf = told at fate
    cases fate with
    | ended _ gone =>
        rw [gone] at found
        cases found
    | flew within stays =>
        rw [stays] at found
        exact ⟨(Option.some.inj found).symm, within⟩
    | struck _ _ _ _ gone =>
        rw [gone] at found
        cases found
  obtain ⟨rfl, within⟩ := flew
  rw [Over, not_or, not_not] at within
  refine ⟨place, isPlace, ?_, within.2⟩
  rw [tick_time]
  exact UInt64.not_le.mp within.1

end Tick

/-! Runs. -/

theorem Airworthy.of_standing {row later : Components} (fit : Airworthy row)
    (same : SameStanding row later) : Airworthy later := by
  obtain ⟨named, placed, moving⟩ := fit.body
  refine ⟨⟨by rw [same.identity]; exact named, same.transform placed, same.velocity moving⟩, ?_⟩
  intro isPlayer
  have clients := congrArg Option.isSome same.client
  rw [Option.isSome_map, Option.isSome_map] at clients
  rw [same.projectile]
  exact fit.apart (clients ▸ isPlayer)

theorem airworthy_rule (sim : GameSimulation) (call : ServerCall) :
    CallRule Airworthy sim call := by
  apply standing_rule
  · exact fun row later same fit => fit.of_standing same
  · exact fun _ _ _ _ _ => ⟨⟨rfl, rfl, rfl⟩, fun _ => rfl⟩
  · exact fun _ _ _ => ⟨⟨rfl, rfl, rfl⟩, fun isPlayer => (by cases isPlayer)⟩

theorem server_run_airworthy (config : SimulationConfig) (calls : List ServerCall) :
    EveryRow Airworthy (serverRun config calls) :=
  server_run_every_row config (fun sim call _ => airworthy_rule sim call) calls

/-- What a tick does with the projectiles. -/
structure TickLife (order : LoopOrder) (sim : GameSimulation) : Prop where
  /-- The projectiles of the state reach the flights unchanged. -/
  reach : ∀ entity row, sim.registry.get? entity = some row → row.projectile.isSome →
    ∃ later, (beforeFlights order sim).registry.get? entity = some later ∧ SameFlight row later
  /-- Each flies once, and is gone after the tick exactly if it ends in its flight. -/
  fates : ∀ entity row projectile, (beforeFlights order sim).registry.get? entity = some row →
    row.projectile = some projectile →
    ∃ place told, (fly sim.config row).transform = some place ∧
      Fate order sim entity row projectile place told
  /-- The tick tells of the hits of its flights, at most one for each projectile. -/
  hits : ∃ added, Queued sim (tickFixed order sim) added ∧
    HitsBy order sim (flights order sim) added
  once : (flights order sim).Nodup
  /-- A projectile that is there after the tick is neither too old nor off the map. -/
  alive : ∀ entity row projectile, (tickFixed order sim).registry.get? entity = some row →
    row.projectile = some projectile → ∃ place, row.transform = some place ∧
      (tickFixed order sim).timeMs < projectile.expiresAtMs ∧ InsideMap sim.config place

theorem before_flights_airworthy (order : LoopOrder) {sim : GameSimulation}
    (fits : EveryRow Airworthy sim) : EveryRow Airworthy (beforeFlights order sim) := by
  have rule : TickRule Airworthy (advanceClock sim) := airworthy_rule sim (.tick order)
  exact rule.warmed order fits

theorem tick_life (order : LoopOrder) {sim : GameSimulation} (fits : EveryRow Airworthy sim) :
    TickLife order sim := by
  have fitsFlights := before_flights_airworthy order fits
  constructor
  · intro entity row present carries
    obtain ⟨projectile, isProjectile⟩ := Option.isSome_iff_exists.mp carries
    exact reaches_flights order sim present ((fits entity row present).noPlayer isProjectile)
  · intro entity row projectile present carries
    have visited := (flights_iff order sim fitsFlights entity).mpr ⟨row, projectile, present, carries⟩
    obtain ⟨turns, rest, isSplit⟩ := List.append_of_mem visited
    obtain ⟨place, added, isPlace, _, fate⟩ :=
      turn_fate order sim isSplit (fitsFlights entity row present) present carries
    exact ⟨place, _, isPlace, fate⟩
  · exact tick_hits order sim fitsFlights
  · exact (beforeFlights order sim).registry.nodup_view order .projectiles inProjectileView
  · exact fun entity row projectile found carries =>
      projectile_alive order sim fitsFlights found carries

/-! Ids. -/

theorem before_flights_identified (order : LoopOrder) (sim : GameSimulation)
    (kept : WhileUnwrapped sim) : WhileUnwrapped (beforeFlights order sim) := by
  apply process_warmups_identified
  intro unwrapped
  have tables := process_inputs_tables order (advanceClock sim)
  apply identified_of_same tables (process_inputs_standing order (advanceClock sim))
  exact identified_congr (kept (tables.created ▸ unwrapped)) rfl rfl rfl rfl rfl

theorem before_flights_aged (order : LoopOrder) (sim : GameSimulation) :
    Aged sim (beforeFlights order sim) := by
  have aged := process_inputs_aged order (advanceClock sim)
  have inputs : Aged sim (processInputs order (advanceClock sim)) := ⟨aged.created, aged.dead⟩
  exact inputs.trans (process_warmups_aged order _)

theorem flights_aged (order : LoopOrder) (sim : GameSimulation) :
    Aged (beforeFlights order sim) (tickFixed order sim) :=
  (process_projectiles_aged order _).trans (process_respawns_aged order _)

/-- Every projectile that has hit is gone, and hit once. -/
def HitsOnce (sim : GameSimulation) : Prop :=
  sim.registry.created < 2 ^ 32 - 1 → (hitIds sim.events).Nodup ∧
    ∀ id ∈ hitIds sim.events, ∃ entity < sim.registry.created,
      id = idOf entity ∧ sim.registry.get? entity = none

theorem hits_once_aged {before after : GameSimulation} (kept : HitsOnce before)
    (aged : Aged before after) (same : hitIds after.events = hitIds before.events) :
    HitsOnce after := by
  intro unwrapped
  obtain ⟨distinct, gone⟩ := kept (Nat.lt_of_le_of_lt aged.created unwrapped)
  rw [same]
  refine ⟨distinct, ?_⟩
  intro id member
  obtain ⟨entity, below, isId, dead⟩ := gone id member
  exact ⟨entity, Nat.lt_of_lt_of_le below aged.created, isId, aged.dead entity below dead⟩

theorem tick_hits_once (order : LoopOrder) (sim : GameSimulation) (fits : EveryRow Airworthy sim)
    (identified : WhileUnwrapped sim) (kept : HitsOnce sim) : HitsOnce (tickFixed order sim) := by
  intro unwrapped
  have after := flights_aged order sim
  have before := before_flights_aged order sim
  have roomFlights := Nat.lt_of_le_of_lt after.created unwrapped
  have atFlights := before_flights_identified order sim identified roomFlights
  obtain ⟨distinct, gone⟩ := kept (Nat.lt_of_le_of_lt before.created roomFlights)
  obtain ⟨added, queued, strikes, only, sublist, struck⟩ :=
    tick_hits order sim (before_flights_airworthy order fits)
  -- The new ids are those of the handles of the projectiles that struck.
  have newIds : hitIds added = (strikes.map Prod.fst).map idOf := by
    unfold hitIds
    rw [only, List.map_map, List.map_map]
    apply List.map_congr_left
    rintro ⟨entity, hit⟩ member
    obtain ⟨row, _, present, _, isStrike, _⟩ := struck entity hit member
    have named := isStrike.named.symm.trans (atFlights.carried entity row present)
    exact congrArg NetworkIdentityComponent.id (Option.some.inj named)
  have alive (entity : Entity) (member : entity ∈ strikes.map Prod.fst) :
      (∃ row, (beforeFlights order sim).registry.get? entity = some row) ∧
        (tickFixed order sim).registry.get? entity = none := by
    obtain ⟨⟨_, hit⟩, isStrike, rfl⟩ := List.mem_map.mp member
    obtain ⟨row, _, present, _, _, dead⟩ := struck _ hit isStrike
    exact ⟨⟨row, present⟩, dead⟩
  have below (entity : Entity) (member : entity ∈ strikes.map Prod.fst) :
      entity < (beforeFlights order sim).registry.created := by
    obtain ⟨⟨row, present⟩, _⟩ := alive entity member
    exact Registry.get?_lt _ present
  have whole : hitIds (tickFixed order sim).events = hitIds sim.events ++ hitIds added := by
    rw [queued, hit_ids_append]
  rw [whole, newIds]
  constructor
  · refine List.nodup_append.mpr ⟨distinct, ?_, ?_⟩
    · refine (sublist.nodup (Registry.nodup_view _ _ _ _)).map_on ?_
      intro first isFirst second isSecond same
      exact id_of_injective (Nat.lt_trans (below first isFirst) roomFlights)
        (Nat.lt_trans (below second isSecond) roomFlights) same
    · -- An old hit was made by a projectile that is gone.
      rintro id old other new rfl
      obtain ⟨entity, isBelow, isId, dead⟩ := gone id old
      obtain ⟨strikerEntity, member, same⟩ := List.mem_map.mp new
      have isStriker : strikerEntity = entity := id_of_injective
        (Nat.lt_trans (below strikerEntity member) roomFlights)
        (Nat.lt_trans (Nat.lt_of_lt_of_le isBelow before.created) roomFlights) (same.trans isId)
      subst isStriker
      obtain ⟨⟨row, present⟩, _⟩ := alive strikerEntity member
      rw [before.dead strikerEntity isBelow dead] at present
      cases present
  · intro id member
    rcases List.mem_append.mp member with old | new
    · obtain ⟨entity, isBelow, isId, dead⟩ := gone id old
      have stays := before.trans after
      exact ⟨entity, Nat.lt_of_lt_of_le isBelow stays.created, isId,
        stays.dead entity isBelow dead⟩
    · obtain ⟨entity, isStriker, rfl⟩ := List.mem_map.mp new
      exact ⟨entity, Nat.lt_of_lt_of_le (below entity isStriker) after.created, rfl,
        (alive entity isStriker).2⟩

theorem quiet_call_hits (sim : GameSimulation) (call : ServerCall)
    (noTick : ∀ order, call ≠ .tick order) :
    QueuesOnly (fun event => hitOf event = none) sim (serverStep sim call) := by
  refine QueuesOnly.mono ?_ (quiet_call sim call noTick).2
  intro event noSubject
  cases event with
  | hitConfirmed hit => cases noSubject
  | _ => rfl

/-- What the ids of the projectiles depend on along a run. -/
structure Tracked (sim : GameSimulation) : Prop where
  fits : EveryRow Airworthy sim
  identified : WhileUnwrapped sim
  hitsOnce : HitsOnce sim

theorem server_step_tracked (sim : GameSimulation) (call : ServerCall) (tracked : Tracked sim) :
    Tracked (serverStep sim call) := by
  refine ⟨server_step_every_row sim call (airworthy_rule sim call) tracked.fits,
    server_step_identified sim call tracked.identified, ?_⟩
  by_cases isTick : ∃ order, call = .tick order
  · obtain ⟨order, rfl⟩ := isTick
    exact tick_hits_once order sim tracked.fits tracked.identified tracked.hitsOnce
  · obtain ⟨added, queued, silent⟩ :=
      quiet_call_hits sim call fun order same => isTick ⟨order, same⟩
    apply hits_once_aged tracked.hitsOnce (server_step_aged sim call)
    rw [queued, hit_ids_append, hit_ids_silent silent, List.append_nil]

theorem server_run_tracked (config : SimulationConfig)
    (server : config.mode = .serverAuthoritative) (calls : List ServerCall) :
    Tracked (serverRun config calls) := by
  apply run_invariant serverStep Tracked server_step_tracked
  refine ⟨by intro entity row present; simp at present, fun _ => identified_start config server, ?_⟩
  exact fun _ => ⟨List.nodup_nil, by simp [hitIds]⟩

/-- No live entity has the id of a dead one, until the ids wrap. -/
theorem id_not_listed {sim : GameSimulation} (tracked : Tracked sim)
    (unwrapped : allocations sim < 2 ^ 32 - 1) {entity : Entity}
    (below : entity < sim.registry.created) (dead : sim.registry.get? entity = none)
    (order : LoopOrder) (observerClientId : ClientId) (snapshotId baselineId : SnapshotId) :
    idOf entity ∉ snapshotIds (buildSnapshot order sim observerClientId snapshotId baselineId) := by
  have identified := tracked.identified unwrapped
  obtain ⟨listed, _, visible, ids⟩ := build_snapshot_ids order
    (fun entity row present => (tracked.fits entity row present).body)
    observerClientId snapshotId baselineId
  rw [ids]
  intro member
  obtain ⟨other, isListed, same⟩ := List.mem_map.mp member
  obtain ⟨row, present, _⟩ := (visible other).mp isListed
  have carried : carriedId sim other = idOf other := by
    unfold carriedId
    rw [present, Option.bind_some, identified.carried other row present]
    rfl
  have isDead := id_of_injective (Nat.lt_trans (Registry.get?_lt _ present) unwrapped)
    (Nat.lt_trans below unwrapped) (carried.symm.trans same)
  rw [isDead, dead] at present
  cases present

/-- The life of the projectiles of a server, from a state on. -/
structure Lifecycle (sim : GameSimulation) : Prop where
  tick : ∀ order, TickLife order sim
  /-- Between the ticks no projectile changes and none hits. -/
  call : ∀ call, (∀ order, call ≠ .tick order) →
    (∀ entity row, sim.registry.get? entity = some row →
      (serverStep sim call).registry.get? entity = some row) ∧
    QueuesOnly (fun event => hitOf event = none) sim (serverStep sim call)
  /-- No id is told to have hit twice. -/
  hitsOnce : allocations sim < 2 ^ 32 - 1 → (hitIds sim.events).Nodup
  /-- The id of what flew and is gone is in no later snapshot. -/
  neverAgain : ∀ order entity row id,
    (beforeFlights order sim).registry.get? entity = some row → row.identity = some { id := id } →
    (tickFixed order sim).registry.get? entity = none →
    ∀ calls, allocations (run serverStep (tickFixed order sim) calls) < 2 ^ 32 - 1 →
      ∀ snapshotOrder observerClientId snapshotId baselineId,
        id ∉ snapshotIds (buildSnapshot snapshotOrder (run serverStep (tickFixed order sim) calls)
          observerClientId snapshotId baselineId)

theorem projectile_lifecycle (config : SimulationConfig)
    (server : config.mode = .serverAuthoritative) (calls : List ServerCall) :
    Lifecycle (serverRun config calls) := by
  have tracked := server_run_tracked config server calls
  generalize serverRun config calls = sim at tracked
  constructor
  · exact fun order => tick_life order tracked.fits
  · exact fun call noTick => ⟨(quiet_call sim call noTick).1, quiet_call_hits sim call noTick⟩
  · exact fun unwrapped => (tracked.hitsOnce unwrapped).1
  · intro order entity row id present named gone later unwrapped snapshotOrder
    have ticked : Tracked (tickFixed order sim) := server_step_tracked sim (.tick order) tracked
    have ran := run_invariant serverStep Tracked server_step_tracked _ ticked later
    have aged := run_relates serverStep Aged Aged.refl Aged.trans server_step_aged
      (tickFixed order sim) later
    have atFlights := flights_aged order sim
    have room : (beforeFlights order sim).registry.created < 2 ^ 32 - 1 :=
      Nat.lt_of_le_of_lt (Nat.le_trans atFlights.created aged.created) unwrapped
    have isId := (before_flights_identified order sim tracked.identified room).carried entity row
      present
    rw [named] at isId
    cases isId
    have below := Nat.lt_of_lt_of_le (Registry.get?_lt _ present) atFlights.created
    exact id_not_listed ran unwrapped (Nat.lt_of_lt_of_le below aged.created)
      (aged.dead entity below gone) snapshotOrder

theorem first_shot_lifecycle : Lifecycle (serverRun { tickDurationMs := 300 } firstShot) :=
  projectile_lifecycle { tickDurationMs := 300 } rfl firstShot

/-! The ids wrap. -/

open IdReuse

/-- A login of an unknown client that finds a seat. -/
theorem fresh_login (sim : GameSimulation) (command : LoginCommand)
    (fresh : command.header.clientId ∉ sim.playerByClient)
    (seat : sim.playerByClient.size < sim.config.maxPlayers.toNat) :
    (submitLogin sim command).1.config = sim.config ∧
    (submitLogin sim command).1.nextNetworkId = { value := sim.nextNetworkId.value + 1 } ∧
    (submitLogin sim command).1.playerByClient =
      sim.playerByClient.insert command.header.clientId sim.nextNetworkId ∧
    (submitLogin sim command).1.registry.get? sim.registry.created =
      some (playerRow sim.config sim.nextNetworkId command.header.clientId
        (spawnTransformForClient sim.config command.header.clientId).x
        (spawnTransformForClient sim.config command.header.clientId).y) := by
  rw [fresh_login_joins sim command fresh seat]
  refine ⟨rfl, rfl, rfl, ?_⟩
  unfold createPlayer
  dsimp only [GameSimulation.allocateNetworkId]
  rw [Registry.get?_create, if_pos rfl]

/-- A player's own snapshot lists it. -/
theorem own_snapshot_lists (order : LoopOrder) {sim : GameSimulation}
    (fits : EveryRow Airworthy sim) {entity : Entity} {id : NetworkEntityId} {clientId : ClientId}
    {x y : Fixed} (present : sim.registry.get? entity = some (playerRow sim.config id clientId x y))
    (snapshotId baselineId : SnapshotId) :
    id ∈ snapshotIds (buildSnapshot order sim clientId snapshotId baselineId) := by
  obtain ⟨listed, _, visible, ids⟩ := build_snapshot_ids order
    (fun entity row present => (fits entity row present).body) clientId snapshotId baselineId
  rw [ids]
  refine List.mem_map.mpr ⟨entity, (visible entity).mpr ⟨_, present, ?_⟩, ?_⟩
  · unfold isVisible
    split
    · simp [rowOwnedByClient, playerRow]
    · rfl
  · unfold carriedId
    rw [present]
    rfl

/-- Client 1 has joined and drawn its bow. -/
def firstAim : List ServerCall :=
  [.login { header := { clientId := 1 } }, .input (shotPacket 1)]

theorem shots_from_first (count : Nat) :
    ∃ rest, shots (count + 1) = .input (shotPacket 1) :: .tick .stored :: rest := by
  induction count with
  | zero => exact ⟨[], rfl⟩
  | succ count ih =>
      obtain ⟨rest, isShots⟩ := ih
      refine ⟨rest ++ [.input (shotPacket (UInt32.ofNat (count + 2))), .tick .stored], ?_⟩
      rw [shots, isShots]
      rfl

/-- Clients 14 and 15 join when the counter has come round to the first ids. -/
theorem second_login_takes_id {sim : GameSimulation} {count : Nat} (wraps : count = 4294967295)
    (lone : LoneShooter sim count) :
    ∃ entity x y, (submitLogin (submitLogin sim lateLogin).1
      { header := { clientId := 15 } }).1.registry.get? entity =
        some (playerRow rapidConfig (idOf 1) 15 x y) := by
  obtain ⟨fresh, seat⟩ := late_login_free lone
  obtain ⟨config, counter, players, _⟩ := fresh_login sim lateLogin fresh seat
  have isCounter : (submitLogin sim lateLogin).1.nextNetworkId = idOf 1 := by
    have first : sim.nextNetworkId = shooterId := by
      rw [lone.counter, wraps]
      rfl
    rw [counter, first]
    rfl
  have seats : (submitLogin sim lateLogin).1.playerByClient.size = 2 := by
    rw [players, Std.ExtTreeMap.size_insert, if_neg (by simpa using fresh), lone.seats]
  have alsoFresh : (15 : ClientId) ∉ (submitLogin sim lateLogin).1.playerByClient := by
    rw [players, Std.ExtTreeMap.mem_iff_isSome_getElem?, get_insert, if_neg (by decide), lone.entry]
    decide
  obtain ⟨_, _, _, present⟩ := fresh_login (submitLogin sim lateLogin).1
    { header := { clientId := 15 } } alsoFresh (by
      rw [seats, config, lone.config]
      decide)
  rw [isCounter, config, lone.config] at present
  exact ⟨_, _, _, present⟩

/-- The first projectile is gone after its tick, and when the ids have wrapped
a snapshot lists its id again. -/
theorem projectile_id_returns :
    rapidConfig.mode = .serverAuthoritative ∧
    ∃ entity row id, (beforeFlights .stored (serverRun rapidConfig firstAim)).registry.get? entity =
        some row ∧ row.projectile.isSome ∧ row.identity = some { id := id } ∧
      (tickFixed .stored (serverRun rapidConfig firstAim)).registry.get? entity = none ∧
      ∃ calls, id ∈ snapshotIds (buildSnapshot .stored
        (run serverStep (tickFixed .stored (serverRun rapidConfig firstAim)) calls) 15 0 0) := by
  refine ⟨rfl, 1, ?_⟩
  have fired : ((beforeFlights .stored (serverRun rapidConfig firstAim)).registry.get? 1).any
      (fun row => row.projectile.isSome && row.identity == some { id := idOf 1 }) = true := by
    decide +kernel
  obtain ⟨row, present, isShot⟩ := (Option.any_eq_true _ _).mp fired
  rw [Bool.and_eq_true, beq_iff_eq] at isShot
  refine ⟨row, idOf 1, present, isShot.1, isShot.2, by decide +kernel, ?_⟩
  obtain ⟨count, wraps⟩ : ∃ count : Nat, count + 1 = 4294967295 := ⟨4294967294, rfl⟩
  obtain ⟨rest, isShots⟩ := shots_from_first count
  refine ⟨rest ++ [.login lateLogin, .login { header := { clientId := 15 } }], ?_⟩
  have shooting : run serverStep (tickFixed .stored (serverRun rapidConfig firstAim)) rest =
      serverRun rapidConfig (rapidFire (count + 1)) := by
    rw [rapidFire, isShots]
    rfl
  have lone := rapid_fire_alone (count + 1) (by omega)
  have fits := server_run_airworthy rapidConfig (rapidFire (count + 1) ++
    [.login lateLogin, .login { header := { clientId := 15 } }])
  rw [server_run_append] at fits
  rw [Runs.run_append, shooting]
  generalize serverRun rapidConfig (rapidFire (count + 1)) = sim at lone fits ⊢
  obtain ⟨entity, x, y, found⟩ := second_login_takes_id wraps lone
  have configured : (run serverStep sim
      [.login lateLogin, .login { header := { clientId := 15 } }]).config = rapidConfig :=
    ((submit_login_config _ _).trans (submit_login_config _ _)).trans lone.config
  rw [← configured] at found
  exact own_snapshot_lists .stored fits found 0 0

end Brawololo.ProjectileLifecycle
