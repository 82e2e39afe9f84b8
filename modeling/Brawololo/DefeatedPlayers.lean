import Brawololo.RowRules
import Brawololo.WeaponStages
import Brawololo.PlayerMotion

/-!
What a defeated player does, which is nothing. From the death to the respawn its
row keeps its place and its aim and takes no damage, and every event that tells
of an act of a player tells of a living one.
-/

namespace Brawololo.DefeatedPlayers

open GameTypes EntityStore Simulation Simulation.GameSimulation SimulationStages EntityIdentity
open RowRules WeaponStages Runs

/-- The player that an event says acted, or was hit. -/
def subjectOf : DomainEvent → Option NetworkEntityId
  | .playerMoved event => some event.entityId
  | .weaponWarmupStarted event => some event.entityId
  | .weaponFired event => some event.entityId
  | .projectileSpawned event => some event.ownerId
  | .hitConfirmed event => some event.targetId
  | .playerDamaged event => some event.entityId
  | .playerDied event => some event.entityId
  | _ => none

def Living (row : Components) : Prop := row.player.isSome ∧ row.defeated = false

/-- A living player carries the id. -/
def LivingAs (sim : GameSimulation) (id : NetworkEntityId) : Prop :=
  ∃ entity row, sim.registry.get? entity = some row ∧ row.identity = some { id := id } ∧ Living row

/-- The event tells of a player that lives in `sim`. -/
def OfLiving (sim : GameSimulation) (event : DomainEvent) : Prop :=
  ∀ id, subjectOf event = some id → LivingAs sim id

/-- A row that kept its place, its aim and the health of its player. -/
structure AtRest (row later : Components) : Prop where
  identity : later.identity = row.identity
  transform : later.transform = row.transform
  aim : later.aim = row.aim
  player : later.player = row.player

theorem AtRest.refl (row : Components) : AtRest row row := ⟨rfl, rfl, rfl, rfl⟩

theorem AtRest.trans {first second third : Components} (left : AtRest first second)
    (right : AtRest second third) : AtRest first third :=
  ⟨right.identity.trans left.identity, right.transform.trans left.transform,
   right.aim.trans left.aim, right.player.trans left.player⟩

theorem AtRest.defeated {row later : Components} (rests : AtRest row later) :
    later.defeated = row.defeated := by
  unfold Components.defeated
  rw [rests.player]

/-- Between two states the defeated players rest, nobody joins the living, and
every event tells of a living player. -/
structure Rests (before after : GameSimulation) : Prop where
  resting : ∀ entity row, before.registry.get? entity = some row → row.defeated = true →
    ∃ later, after.registry.get? entity = some later ∧ AtRest row later
  living : ∀ id, LivingAs after id → LivingAs before id
  events : QueuesOnly (OfLiving before) before after

namespace Rests

theorem refl (sim : GameSimulation) : Rests sim sim :=
  ⟨fun _ row present _ => ⟨row, present, AtRest.refl row⟩, fun _ => id, QueuesOnly.refl sim⟩

theorem trans {first second third : GameSimulation} (left : Rests first second)
    (right : Rests second third) : Rests first third := by
  refine ⟨?_, fun id living => left.living id (right.living id living), ?_⟩
  · intro entity row present defeated
    obtain ⟨middle, found, rests⟩ := left.resting entity row present defeated
    obtain ⟨later, isLater, restsOn⟩ :=
      right.resting entity middle found (rests.defeated.trans defeated)
    exact ⟨later, isLater, rests.trans restsOn⟩
  · refine left.events.trans (QueuesOnly.mono ?_ right.events)
    exact fun event ofLiving id subject => left.living id (ofLiving id subject)

/-- The rows and the queue are all that counts. -/
theorem of_same {before after : GameSimulation} (rows : after.registry = before.registry)
    (events : after.events = before.events) : Rests before after := by
  refine ⟨?_, ?_, [], by unfold Queued; rw [events, List.append_nil], by simp⟩
  · intro entity row present _
    exact ⟨row, by rw [rows]; exact present, AtRest.refl row⟩
  · unfold LivingAs
    rw [rows]
    exact fun _ => id

end Rests

/-- What an update of a row may do: a defeated player rests, the living keep
their id, and an event tells of the row itself, which lives. -/
structure RowRests (row : Components) (result : Components × EventList) : Prop where
  rests : row.defeated = true → AtRest row result.1
  living : Living result.1 → Living row ∧ result.1.identity = row.identity
  events : ∀ event ∈ result.2, ∀ id, subjectOf event = some id →
    row.identity = some { id := id } ∧ Living row

theorem RowRests.keep (row : Components) : RowRests row (row, []) :=
  ⟨fun _ => AtRest.refl row, fun living => ⟨living, rfl⟩, by simp⟩

theorem rests_of_rows {before after : GameSimulation}
    (change : Entity → Components → Components × EventList) (added : EventList)
    (rows : ∀ entity, after.registry.get? entity =
      (before.registry.get? entity).map fun row => (change entity row).1)
    (queued : Queued before after added)
    (told : ∀ event ∈ added, ∃ entity row, before.registry.get? entity = some row ∧
      event ∈ (change entity row).2)
    (rests : ∀ entity row, before.registry.get? entity = some row → RowRests row (change entity row)) :
    Rests before after := by
  refine ⟨?_, ?_, added, queued, ?_⟩
  · intro entity row present defeated
    refine ⟨(change entity row).1, ?_, (rests entity row present).rests defeated⟩
    rw [rows, present]
    rfl
  · rintro id ⟨entity, later, found, named, living⟩
    rw [rows] at found
    obtain ⟨row, present, isLater⟩ := Option.map_eq_some_iff.mp found
    subst isLater
    obtain ⟨alive, same⟩ := (rests entity row present).living living
    exact ⟨entity, row, present, same.symm.trans named, alive⟩
  · intro event member id subject
    obtain ⟨entity, row, present, queues⟩ := told event member
    obtain ⟨named, living⟩ := (rests entity row present).events event queues id subject
    exact ⟨entity, row, present, named, living⟩

section Loops

variable (update : Components → Components × EventList)

theorem update_entity_rests (sim : GameSimulation) (entity : Entity)
    (rests : ∀ row, sim.registry.get? entity = some row → RowRests row (update row)) :
    Rests sim (sim.updateEntity update entity) := by
  apply rests_of_rows (fun other row => if other = entity then update row else (row, []))
    (((sim.registry.get? entity).map fun row => (update row).2).getD [])
  · intro other
    rw [update_entity_row]
    split
    · rfl
    · exact Option.map_id'.symm
  · exact update_entity_queued update sim entity
  · intro event member
    cases present : sim.registry.get? entity with
    | none =>
        rw [present] at member
        cases member
    | some row =>
        rw [present] at member
        exact ⟨entity, row, present, by rw [if_pos rfl]; exact member⟩
  · intro other row present
    split
    · next same => exact rests row (same ▸ present)
    · exact RowRests.keep row

theorem for_each_rests (order : LoopOrder) (site : LoopSite) (holds : Components → Bool)
    (sim : GameSimulation)
    (rests : ∀ entity row, sim.registry.get? entity = some row → holds row = true →
      RowRests row (update row)) :
    Rests sim (sim.forEachEntity order site holds update) := by
  apply rests_of_rows (fun _ row => if holds row then update row else (row, [])) _ _
    (for_each_queued update order site holds sim)
  · intro event member
    obtain ⟨entity, viewed, queued⟩ := List.mem_flatMap.mp member
    obtain ⟨row, present, passes⟩ := (sim.registry.mem_view order site holds entity).mp viewed
    rw [present] at queued
    exact ⟨entity, row, present, by rw [if_pos passes]; exact queued⟩
  · intro entity row present
    split
    · next passes => exact rests entity row present passes
    · exact RowRests.keep row
  · intro entity
    rw [for_each_row]
    congr 1
    funext row
    split <;> rfl

end Loops

/-! The rows of a server. -/

/-- Only players bear weapons, no player is a projectile, and the full health of
a player is the configured one. -/
structure Shaped (config : SimulationConfig) (row : Components) : Prop where
  apart : row.player.isSome → row.projectile = none
  armed : row.player = none → row.weapon = none
  whole : ∀ player, row.player = some player → player.maxHealth = config.maxPlayerHealth

theorem Shaped.bearer {config : SimulationConfig} {row : Components} (shaped : Shaped config row)
    {weapon : WeaponStateComponent} (isWeapon : row.weapon = some weapon) : row.player.isSome := by
  cases isPlayer : row.player with
  | some player => rfl
  | none =>
      rw [shaped.armed isPlayer] at isWeapon
      cases isWeapon

/-- A change that keeps the player, the projectile and whether there is a weapon. -/
theorem Shaped.congr {config : SimulationConfig} {row later : Components}
    (shaped : Shaped config row) (player : later.player = row.player)
    (projectile : later.projectile = row.projectile)
    (weapon : row.player = none → row.weapon = none → later.weapon = none) :
    Shaped config later := by
  refine ⟨?_, ?_, ?_⟩
  · rw [player, projectile]
    exact shaped.apart
  · rw [player]
    exact fun absent => weapon absent (shaped.armed absent)
  · rw [player]
    exact shaped.whole

theorem apply_input_shaped {config : SimulationConfig} (settings : SimulationConfig)
    (timeMs : TimestampMs) (packet : ClientInputPacket) (row : Components)
    (shaped : Shaped config row) :
    Shaped config (applyInputToEntity settings timeMs packet row).1 := by
  rcases apply_input_cases settings timeMs packet row with
    ⟨_, same⟩ | ⟨_, taken | ⟨_, _, weapon, _, _, isWeapon, _, _, _, started⟩⟩
  · rw [same]
    exact shaped
  · rw [taken]
    exact shaped.congr rfl rfl fun _ none => none
  · rw [started]
    exact shaped.congr rfl rfl fun _ none => by rw [none] at isWeapon; cases isWeapon

theorem integrate_shaped {config : SimulationConfig} (settings : SimulationConfig)
    (row : Components) (shaped : Shaped config row) :
    Shaped config (integrateMovement settings row).1 := by
  obtain ⟨transform, velocity, moved, _⟩ := integrate_changes settings row
  rw [moved]
  exact shaped.congr rfl rfl fun _ none => none

theorem finish_warmup_shaped {config : SimulationConfig} (settings : SimulationConfig)
    (timeMs : TimestampMs) (row : Components) (shaped : Shaped config row) :
    Shaped config (finishWarmup settings timeMs row).1 := by
  cases isWeapon : row.weapon with
  | none =>
      have same : (finishWarmup settings timeMs row).1 = row := by
        unfold finishWarmup
        rw [isWeapon]
        cases row.identity with
        | none => rfl
        | some identity => rfl
      rw [same]
      exact shaped
  | some weapon =>
      obtain ⟨later, finished⟩ := finish_warmup_changes settings timeMs row
      rw [finished]
      refine shaped.congr rfl rfl fun _ none => ?_
      rw [isWeapon] at none
      cases none

theorem fly_shaped {config : SimulationConfig} (settings : SimulationConfig) (row : Components)
    (shaped : Shaped config row) : Shaped config (fly settings row) := by
  obtain ⟨transform, flown, _⟩ := fly_changes settings row
  rw [flown]
  exact shaped.congr rfl rfl fun _ none => none

theorem damage_shaped {config : SimulationConfig} (settings : SimulationConfig)
    (timeMs : TimestampMs) (projectileId : NetworkEntityId) (projectile : ProjectileComponent)
    (row : Components) (shaped : Shaped config row) :
    Shaped config (damagePlayer settings timeMs projectileId projectile row).1 := by
  unfold damagePlayer
  split
  · next identity player _ isPlayer =>
      have isSome : row.player.isSome := by rw [isPlayer]; rfl
      dsimp only
      split
      · refine ⟨fun _ => shaped.apart isSome, fun absent => (by cases absent), ?_⟩
        rintro _ ⟨⟩
        exact shaped.whole player isPlayer
      · refine ⟨fun _ => shaped.apart isSome, fun absent => (by cases absent), ?_⟩
        rintro _ ⟨⟩
        exact shaped.whole player isPlayer
  · exact shaped

theorem respawn_shaped {config : SimulationConfig} (settings : SimulationConfig)
    (timeMs : TimestampMs) (row : Components) (shaped : Shaped config row) :
    Shaped config (respawnPlayer settings timeMs row).1 := by
  rcases respawn_cases settings timeMs row with
    ⟨rests, _⟩ | ⟨identity, player, _, isPlayer, _, _, reborn⟩
  · rw [rests]
    exact shaped
  · rw [reborn]
    refine ⟨fun _ => shaped.apart (by rw [isPlayer]; rfl), fun absent => (by cases absent), ?_⟩
    rintro _ ⟨⟩
    exact shaped.whole player isPlayer

theorem shaped_rule (config : SimulationConfig) (sim : GameSimulation) (call : ServerCall)
    (configured : sim.config = config) : CallRule (Shaped config) sim call := by
  cases call with
  | login command =>
      intro id clientId
      rw [configured]
      refine ⟨fun _ => rfl, fun absent => (by cases absent), ?_⟩
      rintro _ ⟨⟩
      rfl
  | input packet => trivial
  | tick order =>
      unfold CallRule
      constructor
      case moves =>
        intro entity row _ shaped
        have applied : Shaped config (applyInputs (advanceClock sim).config (advanceClock sim).timeMs
            (inputsFor (advanceClock sim) entity) row) :=
          run_invariant _ (Shaped config)
            (fun row packet => apply_input_shaped _ _ packet row) row shaped _
        unfold movedRow
        dsimp only
        split
        · exact (integrate_shaped _ _ applied).congr rfl rfl fun _ none => none
        · exact applied.congr rfl rfl fun _ none => none
      case finishes => exact fun row => finish_warmup_shaped _ _ row
      case spawns =>
        intro entity row request id _ _ _
        exact ⟨fun isPlayer => (by cases isPlayer), fun _ => rfl, fun player isPlayer => by cases isPlayer⟩
      case flies => exact fun row _ _ shaped _ _ _ => fly_shaped _ row shaped
      case strikes =>
        exact fun projectileId projectile row => damage_shaped _ _ projectileId projectile row
      case respawns => exact fun row => respawn_shaped _ _ row

/-! The updates of a tick before the respawns. -/

/-- A change that keeps identity and player, at rest if the player is defeated. -/
theorem RowRests.of_same {row later : Components} {events : EventList}
    (identity : later.identity = row.identity) (player : later.player = row.player)
    (place : row.defeated = true → later.transform = row.transform ∧ later.aim = row.aim)
    (told : ∀ event ∈ events, ∀ id, subjectOf event = some id →
      row.identity = some { id := id } ∧ Living row) : RowRests row (later, events) := by
  refine ⟨fun defeated => ?_, fun living => ?_, told⟩
  · exact ⟨identity, (place defeated).1, (place defeated).2, player⟩
  · have same : Living row := by
      unfold Living Components.defeated at living ⊢
      rw [← player]
      exact living
    exact ⟨same, identity⟩

theorem apply_input_rests {config : SimulationConfig} (settings : SimulationConfig)
    (timeMs : TimestampMs) (packet : ClientInputPacket) (row : Components)
    (shaped : Shaped config row) : RowRests row (applyInputToEntity settings timeMs packet row) := by
  rcases apply_input_cases settings timeMs packet row with
    ⟨_, same⟩ | ⟨alive, taken |
      ⟨_, identity, weapon, definition, named, isWeapon, _, _, _, started⟩⟩
  · rw [same]
    exact RowRests.keep row
  · rw [taken]
    exact .of_same rfl rfl (fun defeated => by rw [alive] at defeated; cases defeated) (by simp)
  · rw [started]
    refine .of_same rfl rfl (fun defeated => by rw [alive] at defeated; cases defeated) ?_
    intro event member id subject
    rw [List.mem_singleton.mp member] at subject
    cases subject
    exact ⟨named, shaped.bearer isWeapon, alive⟩

theorem integrate_rests (settings : SimulationConfig) (row : Components) :
    RowRests row (integrateMovement settings row) := by
  unfold integrateMovement
  split
  · next identity transform velocity named _ _ =>
      cases alive : row.defeated with
      | true =>
          rw [if_pos rfl]
          exact .of_same rfl rfl (fun _ => ⟨rfl, rfl⟩) (by simp)
      | false =>
          rw [if_neg Bool.false_ne_true]
          refine .of_same rfl rfl (fun defeated => by rw [alive] at defeated; cases defeated) ?_
          intro event member id subject
          split at member
          · next moved =>
              rw [List.mem_singleton.mp member] at subject
              cases subject
              exact ⟨named, moved.2, alive⟩
          · cases member
  · exact RowRests.keep row

theorem finish_warmup_rests {config : SimulationConfig} (settings : SimulationConfig)
    (timeMs : TimestampMs) (row : Components) (shaped : Shaped config row) :
    RowRests row (finishWarmup settings timeMs row) := by
  cases named : row.identity with
  | none =>
      have same : finishWarmup settings timeMs row = (row, []) := by
        unfold finishWarmup
        rw [named]
      rw [same]
      exact RowRests.keep row
  | some identity =>
      cases isWeapon : row.weapon with
      | none =>
          have same : finishWarmup settings timeMs row = (row, []) := by
            unfold finishWarmup
            rw [named, isWeapon]
          rw [same]
          exact RowRests.keep row
      | some weapon =>
          rw [finish_warmup_cases settings timeMs named isWeapon]
          refine .of_same rfl rfl (fun _ => ⟨rfl, rfl⟩) ?_
          intro event member id subject
          unfold firedEvents at member
          split at member
          · next complete =>
              have facts : row.defeated = false ∧ weapon.warming = true ∧
                  weapon.warmupCompletesAtMs ≤ timeMs := by
                simpa [warmupComplete, and_assoc] using complete
              split at member
              · rw [List.mem_singleton.mp member] at subject
                cases subject
                exact ⟨named, shaped.bearer isWeapon, facts.1⟩
              · cases member
          · cases member

/-- A flight moves a projectile, which is no player. -/
theorem fly_rests {config : SimulationConfig} (settings : SimulationConfig) (row : Components)
    (shaped : Shaped config row) (carries : row.projectile.isSome) :
    RowRests row (fly settings row, []) := by
  obtain ⟨transform, flown, _⟩ := fly_changes settings row
  rw [flown]
  refine .of_same rfl rfl (fun defeated => ?_) (by simp)
  have isPlayer : row.player.isSome := by
    unfold Components.defeated at defeated
    obtain ⟨player, present, _⟩ := (Option.any_eq_true _ _).mp defeated
    rw [present]
    rfl
  rw [shaped.apart isPlayer] at carries
  cases carries

/-- A hit finds a living player. -/
theorem hits_living {projectile : ProjectileComponent} {transform : TransformComponent}
    {row : Components} (hit : hits projectile transform row = true) : Living row := by
  unfold hits at hit
  split at hit
  · next identity player _ _ isPlayer _ =>
      have alive : player.defeated = false := by
        simp only [Bool.and_eq_true, Bool.not_eq_true'] at hit
        exact hit.1.2
      refine ⟨by rw [isPlayer]; rfl, ?_⟩
      unfold Components.defeated
      rw [isPlayer]
      exact alive
  · cases hit

theorem damage_rests (settings : SimulationConfig) (timeMs : TimestampMs)
    (projectileId : NetworkEntityId) (projectile : ProjectileComponent) (row : Components)
    (alive : Living row) :
    RowRests row (damagePlayer settings timeMs projectileId projectile row) := by
  refine ⟨fun defeated => (by rw [alive.2] at defeated; cases defeated),
    fun _ => ⟨alive, ?_⟩, ?_⟩
  · obtain ⟨player, damaged, _⟩ := damage_changes settings timeMs projectileId projectile row
    rw [damaged]
  · intro event member id subject
    refine ⟨?_, alive⟩
    unfold damagePlayer at member
    split at member
    · next identity player named _ =>
        dsimp only at member
        split at member
        · rcases List.mem_append.mp member with hit | died
          · rcases List.mem_pair.mp hit with rfl | rfl
            · cases subject
              exact named
            · cases subject
              exact named
          · rw [List.mem_singleton.mp died] at subject
            cases subject
            exact named
        · rcases List.mem_pair.mp member with rfl | rfl
          · cases subject
            exact named
          · cases subject
            exact named
    · cases member

/-! The stages before the respawns. -/

section Stages

variable {config : SimulationConfig}

theorem apply_pending_rests (sim : GameSimulation) (packet : ClientInputPacket)
    (shaped : EveryRow (Shaped config) sim) :
    Rests sim (applyPendingInput sim packet) ∧
      EveryRow (Shaped config) (applyPendingInput sim packet) := by
  unfold applyPendingInput
  split
  · exact ⟨Rests.refl sim, shaped⟩
  · next entity _ =>
      constructor
      · exact update_entity_rests _ sim entity fun row present =>
          apply_input_rests sim.config sim.timeMs packet row (shaped entity row present)
      · exact update_entity_every_row _ sim entity
          (fun row _ => apply_input_shaped sim.config sim.timeMs packet row) shaped

theorem process_inputs_rests (order : LoopOrder) (sim : GameSimulation)
    (shaped : EveryRow (Shaped config) sim) : Rests sim (processInputs order sim) := by
  have applied := run_invariant applyPendingInput
    (fun after => Rests sim after ∧ EveryRow (Shaped config) after)
    (fun after packet kept =>
      have next := apply_pending_rests after packet kept.2
      ⟨kept.1.trans next.1, next.2⟩)
    sim ⟨Rests.refl sim, shaped⟩ sim.pendingInputs
  have cleared : Rests (sim.pendingInputs.foldl applyPendingInput sim)
      { sim.pendingInputs.foldl applyPendingInput sim with pendingInputs := [] } :=
    .of_same rfl rfl
  have moved := for_each_rests
    (integrateMovement (sim.pendingInputs.foldl applyPendingInput sim).config) order
    .integrateMovement (fun row => row.player.isSome)
    { sim.pendingInputs.foldl applyPendingInput sim with pendingInputs := [] }
    fun _ row _ _ => integrate_rests _ row
  have forgot (after : GameSimulation) :
      Rests after { after with registry := after.registry.mapRows clearIntent } := by
    refine rests_of_rows (fun _ row => (clearIntent row, [])) [] ?_ (List.append_nil _).symm
      (by simp) fun _ row _ => .of_same rfl rfl (fun _ => ⟨rfl, rfl⟩) (by simp)
    exact fun entity => Registry.get?_mapRows _ _ _
  exact ((applied.1.trans cleared).trans moved).trans (forgot _)

/-- A new projectile is no player. -/
theorem create_projectile_living (sim : GameSimulation) (request : ProjectileRequest)
    {id : NetworkEntityId} (later : LivingAs (createProjectile sim request) id) :
    LivingAs sim id := by
  obtain ⟨entity, row, present, named, living⟩ := later
  rcases creates_cases (create_projectile_creates sim request) present with ⟨_, isRow⟩ | old
  · rw [isRow] at living
    cases living.1
  · exact ⟨entity, row, old, named, living⟩

theorem create_all_living (requests : List ProjectileRequest) (sim : GameSimulation)
    {id : NetworkEntityId} (later : LivingAs (requests.foldl createProjectile sim) id) :
    LivingAs sim id := by
  induction requests generalizing sim with
  | nil => exact later
  | cons request rest ih => exact create_projectile_living sim request (ih _ later)

theorem process_warmups_rests (order : LoopOrder) (sim : GameSimulation)
    (shaped : EveryRow (Shaped config) sim) : Rests sim (processWeaponWarmups order sim) := by
  have fired := for_each_rests (finishWarmup sim.config sim.timeMs) order .weaponWarmups
    inWarmupView sim fun entity row present _ =>
      finish_warmup_rests sim.config sim.timeMs row (shaped entity row present)
  unfold processWeaponWarmups
  dsimp only
  generalize isRequests : (sim.registry.view order .weaponWarmups inWarmupView).filterMap
    (fun entity => (sim.registry.get? entity).bind (projectileRequest sim.config sim.timeMs)) =
      requests
  -- A request is made in the name of a living player.
  have ofLiving : ∀ request ∈ requests, LivingAs sim request.ownerId := by
    intro request member
    rw [← isRequests] at member
    obtain ⟨entity, _, requested⟩ := List.mem_filterMap.mp member
    obtain ⟨row, present, isRequest⟩ := Option.bind_eq_some_iff.mp requested
    obtain ⟨_, named, _, _, _, weapon, isWeapon, complete, _⟩ := request_of_row isRequest
    have facts : row.defeated = false ∧ weapon.warming = true ∧
        weapon.warmupCompletesAtMs ≤ sim.timeMs := by
      simpa [warmupComplete, and_assoc] using complete
    exact ⟨entity, row, present, named, (shaped entity row present).bearer isWeapon, facts.1⟩
  refine ⟨?_, fun id later => fired.living id (create_all_living requests _ later),
    fired.events.trans ?_⟩
  · intro entity row present defeated
    obtain ⟨later, found, rests⟩ := fired.resting entity row present defeated
    exact ⟨later, create_all_kept requests _ found, rests⟩
  · apply run_invariant_of_mem createProjectile
      (fun after => QueuesOnly (OfLiving sim) _ after) requests
    · intro request member after queues
      refine queues.trans ⟨_, rfl, ?_⟩
      intro event isEvent id subject
      rw [List.mem_singleton.mp isEvent] at subject
      cases subject
      exact ofLiving request member
    · exact QueuesOnly.refl _

theorem turn_rests (targets : List Entity) (sim : GameSimulation) (toDestroy : List Entity)
    (entity : Entity) (shaped : EveryRow (Shaped config) sim) :
    Rests sim (processProjectile targets (sim, toDestroy) entity).1 ∧
      EveryRow (Shaped config) (processProjectile targets (sim, toDestroy) entity).1 := by
  constructor
  · have flies (row : Components) (projectile : ProjectileComponent)
        (present : sim.registry.get? entity = some row)
        (carries : row.projectile = some projectile) :
        Rests sim (sim.updateEntity (fun row => (fly sim.config row, [])) entity) := by
      apply update_entity_rests
      intro found isFound
      rw [present] at isFound
      cases isFound
      exact fly_rests sim.config row (shaped entity row present) (by rw [carries]; rfl)
    have turn := process_projectile_turn targets sim toDestroy entity
    generalize processProjectile targets (sim, toDestroy) entity = result at turn ⊢
    cases turn with
    | skipped => exact Rests.refl sim
    | gone row projectile transform present carries => exact flies row projectile present carries
    | flew row projectile transform present carries => exact flies row projectile present carries
    | struck row identity projectile transform target targetRow present carries flown stays aimed
        found hit =>
        refine (flies row projectile present carries).trans (update_entity_rests _ _ target ?_)
        intro other isOther
        rw [found] at isOther
        cases isOther
        exact damage_rests sim.config sim.timeMs identity.id projectile targetRow (hits_living hit)
  · apply every_row_of_rows _ shaped
    apply process_projectile_rows
    · exact fun row => id
    · exact fun first second third left right fits => right (left fits)
    · exact fun row _ => fly_shaped sim.config row
    · exact fun projectileId projectile row => damage_shaped sim.config sim.timeMs _ _ row

theorem loop_rests (targets entities : List Entity) (state : GameSimulation × List Entity)
    (shaped : EveryRow (Shaped config) state.1) :
    Rests state.1 (entities.foldl (processProjectile targets) state).1 ∧
      EveryRow (Shaped config) (entities.foldl (processProjectile targets) state).1 := by
  apply run_invariant (processProjectile targets)
    (fun after => Rests state.1 after.1 ∧ EveryRow (Shaped config) after.1)
  · rintro ⟨sim, toDestroy⟩ entity ⟨rests, fits⟩
    obtain ⟨next, fitsNext⟩ := turn_rests targets sim toDestroy entity fits
    exact ⟨rests.trans next, fitsNext⟩
  · exact ⟨Rests.refl state.1, shaped⟩

/-- Destroying the listed projectiles takes no player away. -/
theorem destroy_rests (toDestroy : List Entity) (sim : GameSimulation)
    (shaped : EveryRow (Shaped config) sim)
    (projectiles : ∀ entity ∈ toDestroy, ∃ row, sim.registry.get? entity = some row ∧
      row.projectile.isSome) :
    Rests sim (toDestroy.foldl destroyProjectile sim) := by
  refine ⟨?_, ?_, [], ?_, by simp⟩
  · intro entity row present defeated
    refine ⟨row, ?_, AtRest.refl row⟩
    rw [destroy_all_row toDestroy sim entity ?_, present]
    intro listed
    obtain ⟨other, isOther, carries⟩ := projectiles entity listed
    rw [present] at isOther
    cases isOther
    exact absurd defeated (by
      cases isPlayer : row.player with
      | none => simp [Components.defeated, isPlayer]
      | some player =>
          rw [(shaped entity row present).apart (by rw [isPlayer]; rfl)] at carries
          cases carries)
  · rintro id ⟨entity, row, present, named, living⟩
    rcases destroy_all_cases toDestroy sim entity with gone | same
    · rw [gone] at present
      cases present
    · exact ⟨entity, row, same ▸ present, named, living⟩
  · exact (destroy_all_silent toDestroy sim).trans (List.append_nil _).symm

end Stages

/-! The moments of a tick. -/

/-- The projectiles are still to move. -/
def beforeFlights (order : LoopOrder) (sim : GameSimulation) : GameSimulation :=
  processWeaponWarmups order (processInputs order (advanceClock sim))

/-- The projectiles that a tick visits. -/
def flights (order : LoopOrder) (sim : GameSimulation) : List Entity :=
  (beforeFlights order sim).registry.view order .projectiles inProjectileView

/-- The first of them have had their turn. -/
def afterTurns (order : LoopOrder) (sim : GameSimulation) (turns : List Entity) :
    GameSimulation × List Entity :=
  turns.foldl
    (processProjectile ((beforeFlights order sim).registry.view order .projectileTargets inTargetView))
    (beforeFlights order sim, [])

/-- The players are still to respawn. -/
def beforeRespawns (order : LoopOrder) (sim : GameSimulation) : GameSimulation :=
  processProjectiles order (beforeFlights order sim)

/-- The states that a tick passes through before its respawns. -/
inductive Moment (order : LoopOrder) (sim : GameSimulation) : GameSimulation → Prop
  | start : Moment order sim sim
  | moved : Moment order sim (processInputs order (advanceClock sim))
  | warmed : Moment order sim (beforeFlights order sim)
  | flying (turns rest : List Entity) (visited : flights order sim = turns ++ rest) :
      Moment order sim (afterTurns order sim turns).1

section Tick

variable {config : SimulationConfig}

theorem moments_rest (order : LoopOrder) (sim : GameSimulation)
    (shaped : EveryRow (Shaped config) sim)
    (rules : TickRule (Shaped config) (advanceClock sim)) {moment : GameSimulation}
    (isMoment : Moment order sim moment) : Rests moment (beforeRespawns order sim) := by
  have started : EveryRow (Shaped config) (advanceClock sim) := shaped
  have clock : Rests sim (advanceClock sim) := .of_same rfl rfl
  have moved := process_inputs_rests order (advanceClock sim) started
  have shapedMoved := rules.moved order started
  have warmed := process_warmups_rests order _ shapedMoved
  have shapedWarmed := rules.warmed order started
  -- From a turn on, the other turns follow and then the destructions.
  have flown (turns rest : List Entity) (visited : flights order sim = turns ++ rest) :
      Rests (afterTurns order sim turns).1 (beforeRespawns order sim) := by
    obtain ⟨_, shapedTurns⟩ := loop_rests
      ((beforeFlights order sim).registry.view order .projectileTargets inTargetView) turns
      (beforeFlights order sim, []) shapedWarmed
    obtain ⟨remaining, shapedLoop⟩ := loop_rests
      ((beforeFlights order sim).registry.view order .projectileTargets inTargetView) rest
      (afterTurns order sim turns) shapedTurns
    have listed := projectile_loop_destroys
      ((beforeFlights order sim).registry.view order .projectileTargets inTargetView)
      (flights order sim) (beforeFlights order sim)
    unfold beforeRespawns processProjectiles
    unfold afterTurns at remaining shapedLoop ⊢
    rw [← List.foldl_append, ← visited] at remaining shapedLoop
    exact remaining.trans (destroy_rests _ _ shapedLoop listed)
  cases isMoment with
  | start => exact ((clock.trans moved).trans warmed).trans (flown [] _ rfl)
  | moved => exact warmed.trans (flown [] _ rfl)
  | warmed => exact flown [] _ rfl
  | flying turns rest visited => exact flown turns rest visited

/-- A defeated player carries the id. -/
def DefeatedAs (sim : GameSimulation) (id : NetworkEntityId) : Prop :=
  ∃ entity row, sim.registry.get? entity = some row ∧ row.identity = some { id := id } ∧
    row.defeated = true

/-- The player of a death that damage tells of is defeated. -/
theorem damage_dies (settings : SimulationConfig) (timeMs : TimestampMs)
    (projectileId : NetworkEntityId) (projectile : ProjectileComponent) (row : Components)
    (death : PlayerDied)
    (told : .playerDied death ∈ (damagePlayer settings timeMs projectileId projectile row).2) :
    row.identity = some { id := death.entityId } ∧
      (damagePlayer settings timeMs projectileId projectile row).1.defeated = true := by
  unfold damagePlayer at told ⊢
  split at told
  · next identity player named isPlayer =>
      dsimp only at told ⊢
      split at told
      · next falls =>
          rw [if_pos falls]
          simp at told
          rw [told]
          exact ⟨named, rfl⟩
      · simp at told
  · cases told

theorem turn_dies (targets : List Entity) (sim : GameSimulation) (toDestroy : List Entity)
    (entity : Entity) :
    ∃ added, Queued sim (processProjectile targets (sim, toDestroy) entity).1 added ∧
      ∀ death, .playerDied death ∈ added →
        DefeatedAs (processProjectile targets (sim, toDestroy) entity).1 death.entityId := by
  have silent := update_entity_quiet (fly sim.config) sim entity
  have turn := process_projectile_turn targets sim toDestroy entity
  generalize processProjectile targets (sim, toDestroy) entity = result at turn ⊢
  cases turn with
  | skipped => exact ⟨[], by simp [Queued], by simp⟩
  | gone => exact ⟨[], silent, by simp⟩
  | flew => exact ⟨[], silent, by simp⟩
  | struck row identity projectile transform target targetRow present carries flown stays aimed
      found hit =>
      have queued := silent.trans (update_entity_queued
        (damagePlayer sim.config sim.timeMs identity.id projectile)
        (sim.updateEntity (fun row => (fly sim.config row, [])) entity) target)
      rw [found] at queued
      refine ⟨_, queued, ?_⟩
      intro death member
      obtain ⟨named, defeated⟩ := damage_dies sim.config sim.timeMs identity.id projectile targetRow
        death (by simpa using member)
      refine ⟨target, _, ?_, ?_, defeated⟩
      · rw [update_entity_row, if_pos rfl, found]
        rfl
      · obtain ⟨_, damaged, _⟩ :=
          damage_changes sim.config sim.timeMs identity.id projectile targetRow
        rw [damaged]
        exact named

/-- A player that falls before the respawns is told to have died. -/
theorem falls_told (order : LoopOrder) (sim : GameSimulation) {entity : Entity}
    {row later : Components} (shaped : Shaped config row)
    (present : sim.registry.get? entity = some row) (alive : Living row)
    (found : (beforeRespawns order sim).registry.get? entity = some later)
    (defeated : later.defeated = true) :
    ∃ death, .playerDied death ∈ (beforeRespawns order sim).events.drop sim.events.length ∧
      row.identity = some { id := death.entityId } := by
  obtain ⟨first, queuedInputs, _⟩ := process_inputs_queues order (advanceClock sim)
  obtain ⟨_, _, _, _, moved, _⟩ := moved_row_changes (advanceClock sim) entity row
  have own : (advanceClock sim).registry.get? entity = some row := present
  obtain ⟨added, queued, other, isOther, fared⟩ :=
    PlayerMotion.moved_fares order (advanceClock sim) own (shaped.apart alive.1)
  have same : other = later := Option.some.inj (isOther.symm.trans found)
  subst same
  rcases fared.fate defeated with already | ⟨death, member, named⟩
  · rw [moved] at already
    exact absurd (alive.2.symm.trans already) (by simp)
  · refine ⟨death, ?_, by rw [moved] at named; exact named⟩
    have whole : (beforeRespawns order sim).events = sim.events ++ (first ++ added) :=
      queuedInputs.trans queued
    rw [whole, List.drop_left]
    exact List.mem_append_right first member

/-- A player that was defeated and is born again: at its spawn, still, whole, and
with no warmup running. -/
structure Reborn (config : SimulationConfig) (row later : Components) : Prop where
  identity : later.identity = row.identity
  player : ∃ player, row.player = some player ∧ player.defeated = true ∧
    later.player = some { player with health := config.maxPlayerHealth, defeated := false,
                                      respawnAtMs := 0 } ∧
    later.transform = some (spawnTransformForClient config player.clientId)
  still : later.velocity = some { vx := 0, vy := 0 }
  idle : ∀ weapon, later.weapon = some weapon → weapon.warming = false

theorem respawned_reborn (row : Components) (player : PlayerComponent)
    (isPlayer : row.player = some player) (defeated : player.defeated = true)
    (shaped : Shaped config row) : Reborn config row (respawnedRow config player row) := by
  refine ⟨rfl, ⟨player, isPlayer, defeated, ?_, rfl⟩, rfl, ?_⟩
  · rw [← shaped.whole player isPlayer]
    rfl
  · intro weapon isWeapon
    obtain ⟨old, _, isIdle⟩ := Option.map_eq_some_iff.mp isWeapon
    rw [← isIdle]

/-- An entity is born again in the tick, as the event tells. -/
def Revived (config : SimulationConfig) (order : LoopOrder) (sim : GameSimulation)
    (entity : Entity) (event : DomainEvent) : Prop :=
  ∃ row later respawned, event = .playerRespawned respawned ∧
    (beforeRespawns order sim).registry.get? entity = some row ∧
    row.identity = some { id := respawned.entityId } ∧
    (tickFixed order sim).registry.get? entity = some later ∧ Reborn config row later

/-- The respawns of a tick leave a row as it is or revive a player, and tell of
exactly the players they revive. -/
theorem tick_respawns (order : LoopOrder) (sim : GameSimulation) (configured : sim.config = config)
    (shaped : EveryRow (Shaped config) (beforeRespawns order sim)) :
    ∃ told, Queued (beforeRespawns order sim) (tickFixed order sim) told ∧
      (∀ event ∈ told, ∃ entity, Revived config order sim entity event) ∧
      ∀ entity row, (beforeRespawns order sim).registry.get? entity = some row →
        (tickFixed order sim).registry.get? entity = some row ∨
          ∃ event ∈ told, Revived config order sim entity event := by
  have inputs := process_inputs_tables order (advanceClock sim)
  have setup := (process_warmups_setup order (processInputs order (advanceClock sim))).trans
    (process_projectiles_setup order (beforeFlights order sim))
  have settings : (beforeRespawns order sim).config = config :=
    (setup.config.trans inputs.config).trans configured
  have rows (entity : Entity) : (tickFixed order sim).registry.get? entity =
      ((beforeRespawns order sim).registry.get? entity).map fun row =>
        if inRespawnView row then
          (respawnPlayer config (beforeRespawns order sim).timeMs row).1 else row := by
    rw [← settings]
    exact process_respawns_row order (beforeRespawns order sim) entity
  have queued : Queued (beforeRespawns order sim) (tickFixed order sim)
      (((beforeRespawns order sim).registry.view order .respawns inRespawnView).flatMap fun entity =>
        (((beforeRespawns order sim).registry.get? entity).map fun row =>
          (respawnPlayer config (beforeRespawns order sim).timeMs row).2).getD []) := by
    rw [← settings]
    exact for_each_queued _ order .respawns inRespawnView (beforeRespawns order sim)
  -- A row in the view waits, or is revived with its event.
  have outcome (entity : Entity) (row : Components)
      (present : (beforeRespawns order sim).registry.get? entity = some row)
      (viewed : inRespawnView row = true) :
      respawnPlayer config (beforeRespawns order sim).timeMs row = (row, []) ∨
        ∃ event, (respawnPlayer config (beforeRespawns order sim).timeMs row).2 = [event] ∧
          Revived config order sim entity event := by
    rcases respawn_cases config (beforeRespawns order sim).timeMs row with
      ⟨rests, _⟩ | ⟨identity, player, named, isPlayer, defeated, _, reborn⟩
    · exact Or.inl rests
    · refine Or.inr ⟨_, by rw [reborn], row, respawnedRow config player row, _, rfl, present,
        named, ?_, respawned_reborn row player isPlayer defeated (shaped entity row present)⟩
      rw [rows, present, Option.map_some, if_pos viewed, reborn]
  refine ⟨_, queued, ?_, ?_⟩
  · intro event member
    obtain ⟨entity, inView, isEvent⟩ := List.mem_flatMap.mp member
    obtain ⟨row, present, viewed⟩ := (Registry.mem_view _ order .respawns _ entity).mp inView
    rw [present] at isEvent
    rcases outcome entity row present viewed with rests | ⟨told, only, revived⟩
    · simp [rests] at isEvent
    · simp only [Option.map_some, Option.getD_some, only, List.mem_singleton] at isEvent
      exact ⟨entity, isEvent ▸ revived⟩
  · intro entity row present
    by_cases viewed : inRespawnView row
    · rcases outcome entity row present viewed with rests | ⟨told, only, revived⟩
      · left
        rw [rows, present, Option.map_some, if_pos viewed, rests]
      · right
        refine ⟨told, List.mem_flatMap.mpr ⟨entity, ?_, ?_⟩, revived⟩
        · exact (Registry.mem_view _ order .respawns _ entity).mpr ⟨row, present, viewed⟩
        · rw [present, Option.map_some, Option.getD_some, only]
          exact List.mem_singleton_self told
    · left
      rw [rows, present, Option.map_some, if_neg viewed]

end Tick

/-! Runs. -/

/-- A server under the configuration, with its rows in shape. -/
structure Serving (config : SimulationConfig) (sim : GameSimulation) : Prop where
  configured : sim.config = config
  shaped : EveryRow (Shaped config) sim

section Runs

variable {config : SimulationConfig} {sim : GameSimulation}

theorem server_step_serving (sim : GameSimulation) (call : ServerCall)
    (serving : Serving config sim) : Serving config (serverStep sim call) :=
  ⟨(server_step_config sim call).trans serving.configured,
   server_step_every_row sim call (shaped_rule config sim call serving.configured) serving.shaped⟩

theorem server_run_serving (config : SimulationConfig) (calls : List ServerCall) :
    Serving config (serverRun config calls) :=
  run_invariant serverStep (Serving config) server_step_serving { config := config }
    ⟨rfl, by intro entity row present; simp at present⟩ calls

theorem tick_rules (order : LoopOrder) (serving : Serving config sim) :
    TickRule (Shaped config) (advanceClock sim) :=
  shaped_rule config sim (.tick order) serving.configured

/-- What a tick does with the players that are defeated in it. -/
structure InertTick (config : SimulationConfig) (order : LoopOrder) (sim : GameSimulation) :
    Prop where
  /-- From any moment to the respawns the defeated rest. -/
  rests : ∀ moment, Moment order sim moment → Rests moment (beforeRespawns order sim)
  /-- A player that a death tells of is defeated from that turn on. -/
  dies : ∀ turns entity rest, flights order sim = turns ++ entity :: rest → ∃ added,
    Queued (afterTurns order sim turns).1 (afterTurns order sim (turns ++ [entity])).1 added ∧
      ∀ death, .playerDied death ∈ added →
        DefeatedAs (afterTurns order sim (turns ++ [entity])).1 death.entityId
  /-- No player is defeated without a death. -/
  falls : ∀ entity row later, sim.registry.get? entity = some row → Living row →
    (beforeRespawns order sim).registry.get? entity = some later → later.defeated = true →
    ∃ death, .playerDied death ∈ (beforeRespawns order sim).events.drop sim.events.length ∧
      row.identity = some { id := death.entityId }
  /-- The respawns revive the players they tell of and touch no other row. -/
  respawns : ∃ told, Queued (beforeRespawns order sim) (tickFixed order sim) told ∧
    (∀ event ∈ told, ∃ entity, Revived config order sim entity event) ∧
    ∀ entity row, (beforeRespawns order sim).registry.get? entity = some row →
      (tickFixed order sim).registry.get? entity = some row ∨
        ∃ event ∈ told, Revived config order sim entity event
  /-- A shot ends a warmup of a living player. -/
  shots : ∃ added, Queued sim (tickFixed order sim) added ∧
    ∀ fired, .weaponFired fired ∈ added → ∃ entity row before weapon,
      sim.registry.get? entity = some row ∧ row.defeated = false ∧
      row.identity = some { id := fired.entityId } ∧ row.weapon = some before ∧
      Warmed (advanceClock sim).config (advanceClock sim).timeMs
        (inputsFor (advanceClock sim) entity) before weapon ∧
      weapon.warming = true ∧ weapon.warmupCompletesAtMs ≤ (advanceClock sim).timeMs ∧
      fired.firedAtMs = (advanceClock sim).timeMs

theorem tick_inert (order : LoopOrder) (serving : Serving config sim) :
    InertTick config order sim where
  rests := fun _ isMoment =>
    moments_rest order sim serving.shaped (tick_rules order serving) isMoment
  dies := by
    intro turns entity rest _
    obtain ⟨added, queued, dies⟩ := turn_dies
      ((beforeFlights order sim).registry.view order .projectileTargets inTargetView)
      (afterTurns order sim turns).1 (afterTurns order sim turns).2 entity
    refine ⟨added, ?_⟩
    unfold afterTurns at queued dies ⊢
    rw [List.foldl_append]
    exact ⟨queued, dies⟩
  falls := fun entity _ _ present alive found defeated =>
    falls_told order sim (serving.shaped entity _ present) present alive found defeated
  respawns := tick_respawns order sim serving.configured
    ((tick_rules order serving).flown order serving.shaped)
  shots := tick_fired order sim

/-- Logins and inputs touch no row and tell of no act. -/
theorem quiet_call (sim : GameSimulation) (call : ServerCall) (noTick : ∀ order, call ≠ .tick order) :
    (∀ entity row, sim.registry.get? entity = some row →
      (serverStep sim call).registry.get? entity = some row) ∧
    QueuesOnly (fun event => subjectOf event = none) sim (serverStep sim call) := by
  have same : (∀ entity row, sim.registry.get? entity = some row →
      sim.registry.get? entity = some row) ∧
      QueuesOnly (fun event => subjectOf event = none) sim sim :=
    ⟨fun _ _ => id, QueuesOnly.refl sim⟩
  cases call with
  | login command =>
      dsimp only [serverStep]
      rcases submit_login_cases sim command with unchanged | ⟨_, _, joined⟩
      · rw [unchanged]
        exact same
      · rw [joined]
        refine ⟨?_, _, rfl, ?_⟩
        · intro entity row present
          have below := Registry.get?_lt _ present
          unfold createPlayer
          dsimp only [allocateNetworkId]
          rw [Registry.get?_create, if_neg (Nat.ne_of_lt below)]
          exact present
        · intro event member
          rw [List.mem_singleton.mp member]
          rfl
  | input packet =>
      dsimp only [serverStep]
      rcases submit_input_cases sim packet with ⟨unchanged, _⟩ | ⟨_, _, accepted⟩
      · rw [unchanged]
        exact same
      · rw [accepted]
        exact same
  | tick order => exact absurd rfl (noTick order)

/-- A defeated player rests until a tick revives it. -/
theorem rests_until_revived (serving : Serving config sim) {entity : Entity} {row : Components}
    (present : sim.registry.get? entity = some row) (defeated : row.defeated = true)
    (calls : List ServerCall) :
    (∃ later, (run serverStep sim calls).registry.get? entity = some later ∧ AtRest row later) ∨
      ∃ earlier order rest event, calls = earlier ++ .tick order :: rest ∧
        event ∈ (tickFixed order (run serverStep sim earlier)).events ∧
        Revived config order (run serverStep sim earlier) entity event := by
  induction calls generalizing sim row with
  | nil => exact Or.inl ⟨row, present, AtRest.refl row⟩
  | cons call calls ih =>
      -- The first call leaves the row at rest, or it is the tick of the respawn.
      have first : (∃ later, (serverStep sim call).registry.get? entity = some later ∧
          AtRest row later) ∨ ∃ order event, call = .tick order ∧
            event ∈ (tickFixed order sim).events ∧ Revived config order sim entity event := by
        by_cases isTick : ∃ order, call = .tick order
        · obtain ⟨order, rfl⟩ := isTick
          have inert := tick_inert order serving
          obtain ⟨resting, found, rests⟩ :=
            (inert.rests sim .start).resting entity row present defeated
          obtain ⟨told, queued, _, outcome⟩ := inert.respawns
          rcases outcome entity resting found with same | ⟨event, member, revived⟩
          · exact Or.inl ⟨resting, same, rests⟩
          · refine Or.inr ⟨order, event, rfl, ?_, revived⟩
            rw [queued]
            exact List.mem_append_right _ member
        · have kept := (quiet_call sim call fun order same => isTick ⟨order, same⟩).1
          exact Or.inl ⟨row, kept entity row present, AtRest.refl row⟩
      rcases first with ⟨resting, found, rests⟩ | ⟨order, event, rfl, member, revived⟩
      · rcases ih (server_step_serving sim call serving) found (rests.defeated.trans defeated) with
          ⟨later, isLater, restsOn⟩ | ⟨earlier, order, rest, event, isSplit, member, revived⟩
        · exact Or.inl ⟨later, isLater, rests.trans restsOn⟩
        · exact Or.inr ⟨call :: earlier, order, rest, event, by rw [isSplit]; rfl, member, revived⟩
      · exact Or.inr ⟨[], order, calls, event, rfl, member, revived⟩

theorem login_row (sim : GameSimulation) (command : LoginCommand) {entity : Entity}
    {later : Components} (found : (submitLogin sim command).1.registry.get? entity = some later) :
    sim.registry.get? entity = some later ∨ ∃ id clientId, later = playerRow sim.config id clientId
      (spawnTransformForClient sim.config clientId).x
      (spawnTransformForClient sim.config clientId).y := by
  rcases submit_login_cases sim command with same | ⟨_, _, joined⟩
  · rw [same] at found
    exact Or.inl found
  · rw [joined] at found
    rcases creates_cases (create_player_creates _ _ _ _) found with ⟨_, isNew⟩ | old
    · exact Or.inr ⟨_, _, isNew⟩
    · exact Or.inl old

theorem input_registry (sim : GameSimulation) (packet : ClientInputPacket) :
    (submitInput sim packet).1.registry = sim.registry := by
  rcases submit_input_cases sim packet with ⟨same, _⟩ | ⟨_, _, accepted⟩
  · rw [same]
  · rw [accepted]

/-- A warmup that runs for a living player was started in a tick since any state
in which the player was defeated. -/
theorem warmup_since_death (serving : Serving config sim) {entity : Entity} {row : Components}
    (present : sim.registry.get? entity = some row) (defeated : row.defeated = true)
    (calls : List ServerCall) {later : Components} {weapon : WeaponStateComponent}
    (found : (run serverStep sim calls).registry.get? entity = some later)
    (alive : later.defeated = false) (isWeapon : later.weapon = some weapon)
    (warming : weapon.warming = true) :
    ∃ earlier order rest started, calls = earlier ++ .tick order :: rest ∧
      (run serverStep sim earlier).registry.get? entity = some started ∧
      started.defeated = false ∧
      weapon.warmupStartedAtMs = (advanceClock (run serverStep sim earlier)).timeMs := by
  induction calls using List.reverseRecOn generalizing later weapon with
  | nil =>
      rw [run_nil, present] at found
      cases found
      exact absurd (defeated.symm.trans alive) (by simp)
  | append_singleton calls call ih =>
      -- A warmup that ran before the last call is the one of the induction.
      have more (before : Components) (isBefore :
          (run serverStep sim calls).registry.get? entity = some before)
          (aliveBefore : before.defeated = false) (same : before.weapon = some weapon) :
          ∃ earlier order rest started, calls ++ [call] = earlier ++ .tick order :: rest ∧
            (run serverStep sim earlier).registry.get? entity = some started ∧
            started.defeated = false ∧
            weapon.warmupStartedAtMs = (advanceClock (run serverStep sim earlier)).timeMs := by
        obtain ⟨earlier, order, rest, started, isSplit, facts⟩ :=
          ih isBefore aliveBefore same warming
        exact ⟨earlier, order, rest ++ [call], started, by rw [isSplit]; simp, facts⟩
      rw [run_append] at found
      have shaped := (run_invariant serverStep (Serving config) server_step_serving sim serving
        (calls ++ [call])).shaped
      rw [run_append] at shaped
      have isPlayer := (shaped entity later found).bearer isWeapon
      cases call with
      | login command =>
          rcases login_row (run serverStep sim calls) command found with old | ⟨id, clientId, isNew⟩
          · exact more later old alive isWeapon
          · rw [isNew] at isWeapon
            cases isWeapon
            cases warming
      | input packet =>
          refine more later ?_ alive isWeapon
          rw [← input_registry (run serverStep sim calls) packet]
          exact found
      | tick order =>
          -- It ran before this tick already, or it starts in it.
          obtain ⟨before, own, isBefore, aliveBefore, isOwn, warmed⟩ :=
            tick_warming order (run serverStep sim calls) found isPlayer alive isWeapon warming
          cases warmed with
          | left => exact more before isBefore aliveBefore isOwn
          | started => exact ⟨calls, order, [], before, rfl, isBefore, aliveBefore, rfl⟩

/-- What becomes of the defeated players of a server, from a state on. -/
structure Inert (config : SimulationConfig) (sim : GameSimulation) : Prop where
  tick : ∀ order, InertTick config order sim
  call : ∀ call, (∀ order, call ≠ .tick order) →
    (∀ entity row, sim.registry.get? entity = some row →
      (serverStep sim call).registry.get? entity = some row) ∧
    QueuesOnly (fun event => subjectOf event = none) sim (serverStep sim call)
  /-- A defeated player rests until a tick revives it. -/
  untilRevived : ∀ entity row calls, sim.registry.get? entity = some row → row.defeated = true →
    (∃ later, (run serverStep sim calls).registry.get? entity = some later ∧ AtRest row later) ∨
      ∃ earlier order rest event, calls = earlier ++ .tick order :: rest ∧
        event ∈ (tickFixed order (run serverStep sim earlier)).events ∧
        Revived config order (run serverStep sim earlier) entity event
  /-- No warmup from before the death is running after it. -/
  freshWarmups : ∀ entity row calls later weapon, sim.registry.get? entity = some row →
    row.defeated = true → (run serverStep sim calls).registry.get? entity = some later →
    later.defeated = false → later.weapon = some weapon → weapon.warming = true →
    ∃ earlier order rest started, calls = earlier ++ .tick order :: rest ∧
      (run serverStep sim earlier).registry.get? entity = some started ∧
      started.defeated = false ∧
      weapon.warmupStartedAtMs = (advanceClock (run serverStep sim earlier)).timeMs

/-- In every state of every run of a server the defeated players are inert. -/
theorem defeated_players_inert (config : SimulationConfig) (calls : List ServerCall) :
    Inert config (serverRun config calls) := by
  have serving := server_run_serving config calls
  constructor
  · exact fun order => tick_inert order serving
  · exact quiet_call (serverRun config calls)
  · exact fun entity row calls present defeated =>
      rests_until_revived serving present defeated calls
  · exact fun entity row calls later weapon present defeated found alive isWeapon warming =>
      warmup_since_death serving present defeated calls found alive isWeapon warming

end Runs

end Brawololo.DefeatedPlayers
