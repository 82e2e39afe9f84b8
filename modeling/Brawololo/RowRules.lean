import Brawololo.SimulationStages
import Brawololo.EntityIdentity

/-!
A rule for properties of rows. What a tick and a login do to the rows is a
short list of changes; a property that each of them keeps holds of every row
in every state of a run.
-/

namespace Brawololo.RowRules

open GameTypes EntityStore Simulation Simulation.GameSimulation SimulationStages EntityIdentity

def EveryRow (fits : Components → Prop) (sim : GameSimulation) : Prop :=
  ∀ entity row, sim.registry.get? entity = some row → fits row

/-- Every row fits but those of the entities that are to be destroyed. -/
def EveryRowBut (toDestroy : List Entity) (fits : Components → Prop) (sim : GameSimulation) :
    Prop :=
  ∀ entity row, sim.registry.get? entity = some row → entity ∉ toDestroy → fits row

section Stages

variable {fits : Components → Prop}

theorem every_row_of_rows {before after : GameSimulation}
    (rows : RowsRelated (fun row later => fits row → fits later) before after)
    (all : EveryRow fits before) : EveryRow fits after := by
  intro entity later present
  obtain ⟨row, found, kept⟩ := rows.backward present
  exact kept (all entity row found)

theorem update_entity_every_row
    (update : Components → Components × EventList) (sim : GameSimulation) (entity : Entity)
    (keeps : ∀ row, sim.registry.get? entity = some row → fits row → fits (update row).1)
    (all : EveryRow fits sim) : EveryRow fits (sim.updateEntity update entity) := by
  intro other later present
  rw [update_entity_row] at present
  split at present
  · next same =>
      subst same
      obtain ⟨row, found, isLater⟩ := Option.map_eq_some_iff.mp present
      subst isLater
      exact keeps row found (all other row found)
  · exact all other later present

theorem for_each_every_row (order : LoopOrder) (site : LoopSite) (holds : Components → Bool)
    (update : Components → Components × EventList) (sim : GameSimulation)
    (keeps : ∀ row, fits row → fits (update row).1) (all : EveryRow fits sim) :
    EveryRow fits (sim.forEachEntity order site holds update) := by
  intro entity later present
  rw [for_each_row] at present
  obtain ⟨row, found, isLater⟩ := Option.map_eq_some_iff.mp present
  subst isLater
  split
  · exact keeps row (all entity row found)
  · exact all entity row found

theorem process_inputs_every_row (order : LoopOrder) (sim : GameSimulation)
    (moves : ∀ entity row, sim.registry.get? entity = some row → fits row →
      fits (movedRow sim entity row))
    (all : EveryRow fits sim) : EveryRow fits (processInputs order sim) := by
  intro entity later present
  rw [process_inputs_row] at present
  obtain ⟨row, found, isLater⟩ := Option.map_eq_some_iff.mp present
  subst isLater
  exact moves entity row found (all entity row found)

theorem create_every_row {before after : GameSimulation} {row : Components}
    (creates : Creates before after row) (fitting : fits row) (all : EveryRow fits before) :
    EveryRow fits after := by
  intro entity found present
  rcases creates_cases creates present with ⟨_, isRow⟩ | old
  · rw [isRow]
    exact fitting
  · exact all entity found old

theorem create_all_every_row (requests : List ProjectileRequest) (sim : GameSimulation)
    (spawns : ∀ request ∈ requests, ∀ id, fits (projectileRow sim.timeMs id request))
    (all : EveryRow fits sim) : EveryRow fits (requests.foldl createProjectile sim) := by
  induction requests generalizing sim with
  | nil => exact all
  | cons request rest ih =>
      apply ih (createProjectile sim request)
      · exact fun other member => spawns other (List.mem_cons_of_mem request member)
      · exact create_every_row (create_projectile_creates sim request)
          (spawns request List.mem_cons_self sim.nextNetworkId) all

theorem process_warmups_every_row (order : LoopOrder) (sim : GameSimulation)
    (finishes : ∀ row, fits row → fits (finishWarmup sim.config sim.timeMs row).1)
    (spawns : ∀ entity row request id, sim.registry.get? entity = some row →
      projectileRequest sim.config sim.timeMs row = some request →
      fits (projectileRow sim.timeMs id request))
    (all : EveryRow fits sim) : EveryRow fits (processWeaponWarmups order sim) := by
  unfold processWeaponWarmups
  have time : (sim.forEachEntity order .weaponWarmups inWarmupView
      (finishWarmup sim.config sim.timeMs)).timeMs = sim.timeMs :=
    (for_each_tables _ order .weaponWarmups inWarmupView sim).timeMs
  apply create_all_every_row
  · intro request member id
    obtain ⟨entity, _, requested⟩ := List.mem_filterMap.mp member
    obtain ⟨row, present, isRequest⟩ := Option.bind_eq_some_iff.mp requested
    rw [time]
    exact spawns entity row request id present isRequest
  · exact for_each_every_row order .weaponWarmups inWarmupView _ sim finishes all

/-! The projectiles. -/

theorem turn_every_row (targets : List Entity) (sim : GameSimulation) (toDestroy : List Entity)
    (entity : Entity)
    (flies : ∀ row projectile transform, fits row → row.projectile = some projectile →
      (fly sim.config row).transform = some transform →
      projectileGone sim.config sim.timeMs projectile transform = false → fits (fly sim.config row))
    (strikes : ∀ projectileId projectile row, fits row →
      fits (damagePlayer sim.config sim.timeMs projectileId projectile row).1)
    (all : EveryRowBut toDestroy fits sim) :
    EveryRowBut (processProjectile targets (sim, toDestroy) entity).2 fits
      (processProjectile targets (sim, toDestroy) entity).1 := by
  -- The rows of the others are untouched by the flight of the entity.
  have others : ∀ other row, (sim.updateEntity (fun row => (fly sim.config row, []))
      entity).registry.get? other = some row → other ≠ entity → other ∉ toDestroy → fits row := by
    intro other row present different spared
    rw [update_entity_row, if_neg different] at present
    exact all other row present spared
  have turn := process_projectile_turn targets sim toDestroy entity
  generalize processProjectile targets (sim, toDestroy) entity = result at turn ⊢
  cases turn with
  | skipped => exact all
  | gone row projectile transform present carries flown leaves =>
      intro other later found spared
      rw [List.mem_append, List.mem_singleton, not_or] at spared
      exact others other later found spared.2 spared.1
  | flew row projectile transform present carries flown stays clear =>
      intro other later found spared
      by_cases same : other = entity
      · subst same
        rw [update_entity_row, if_pos rfl, present] at found
        cases found
        exact flies row projectile transform (all other row present spared) carries flown stays
      · exact others other later found same spared
  | struck row identity projectile transform target targetRow present carries flown stays aimed
      isTarget hit =>
      intro other later found spared
      rw [List.mem_append, List.mem_singleton, not_or] at spared
      rw [update_entity_row] at found
      split at found
      · obtain ⟨before, isBefore, isLater⟩ := Option.map_eq_some_iff.mp found
        subst isLater
        exact strikes identity.id projectile before
          (others other before isBefore spared.2 spared.1)
      · exact others other later found spared.2 spared.1

theorem projectile_loop_every_row (config : SimulationConfig) (timeMs : TimestampMs)
    (flies : ∀ row projectile transform, fits row → row.projectile = some projectile →
      (fly config row).transform = some transform →
      projectileGone config timeMs projectile transform = false → fits (fly config row))
    (strikes : ∀ projectileId projectile row, fits row →
      fits (damagePlayer config timeMs projectileId projectile row).1)
    (targets entities : List Entity) (state : GameSimulation × List Entity)
    (configured : state.1.config = config) (timed : state.1.timeMs = timeMs)
    (all : EveryRowBut state.2 fits state.1) :
    EveryRowBut (entities.foldl (processProjectile targets) state).2 fits
      (entities.foldl (processProjectile targets) state).1 := by
  induction entities generalizing state with
  | nil => exact all
  | cons entity rest ih =>
      have tables := process_projectile_tables targets state.1 state.2 entity
      apply ih
      · exact tables.config.trans configured
      · exact tables.timeMs.trans timed
      · subst configured timed
        exact turn_every_row targets state.1 state.2 entity flies strikes all

/-- The loop lists only entities that it visits. -/
theorem projectile_loop_lists (targets entities : List Entity) (sim : GameSimulation) :
    ∀ entity ∈ (entities.foldl (processProjectile targets) (sim, [])).2, entity ∈ entities := by
  apply Runs.run_invariant_of_mem (processProjectile targets)
    (fun state => ∀ entity ∈ state.2, entity ∈ entities) entities
  · rintro entity visited ⟨sim, toDestroy⟩ listed other member
    have turn := process_projectile_turn targets sim toDestroy entity
    generalize processProjectile targets (sim, toDestroy) entity = result at turn member
    have appended : other ∈ toDestroy ++ [entity] → other ∈ entities := by
      intro either
      rcases List.mem_append.mp either with old | new
      · exact listed other old
      · rw [List.mem_singleton.mp new]
        exact visited
    cases turn with
    | skipped => exact listed other member
    | flew => exact listed other member
    | gone => exact appended member
    | struck => exact appended member
  · simp

/-- A listed entity is gone when the stage is over: the loop visits only
entities with an identity. -/
theorem listed_destroyed (order : LoopOrder) (sim : GameSimulation)
    (looped : GameSimulation × List Entity)
    (isLoop : looped = (sim.registry.view order .projectiles inProjectileView).foldl
      (processProjectile (sim.registry.view order .projectileTargets inTargetView)) (sim, []))
    {entity : Entity} (listed : entity ∈ looped.2) :
    (looped.2.foldl destroyProjectile looped.1).registry.get? entity = none := by
  subst isLoop
  have visited := projectile_loop_lists _ _ sim entity listed
  obtain ⟨row, present, viewed⟩ := (sim.registry.mem_view order .projectiles _ entity).mp visited
  obtain ⟨identity, _, _, _, named, _⟩ := (in_projectile_view_iff row).mp viewed
  obtain ⟨later, found, standing⟩ := (projectile_loop_standing
    (sim.registry.view order .projectileTargets inTargetView)
    (sim.registry.view order .projectiles inProjectileView) sim).forward present
  exact destroy_all_gone _ _ entity listed later found (by rw [standing.identity, named]; rfl)

theorem process_projectiles_every_row (order : LoopOrder) (sim : GameSimulation)
    (flies : ∀ row projectile transform, fits row → row.projectile = some projectile →
      (fly sim.config row).transform = some transform →
      projectileGone sim.config sim.timeMs projectile transform = false → fits (fly sim.config row))
    (strikes : ∀ projectileId projectile row, fits row →
      fits (damagePlayer sim.config sim.timeMs projectileId projectile row).1)
    (all : EveryRow fits sim) : EveryRow fits (processProjectiles order sim) := by
  have looped := projectile_loop_every_row sim.config sim.timeMs flies strikes
    (sim.registry.view order .projectileTargets inTargetView)
    (sim.registry.view order .projectiles inProjectileView) (sim, []) rfl rfl
    (fun entity row present _ => all entity row present)
  intro entity row present
  by_cases listed : entity ∈ ((sim.registry.view order .projectiles inProjectileView).foldl
      (processProjectile (sim.registry.view order .projectileTargets inTargetView)) (sim, [])).2
  · have dead := listed_destroyed order sim _ rfl listed
    exact absurd (present.symm.trans dead) (by simp)
  · exact looped entity row ((destroy_all_row _ _ entity listed).symm.trans present) listed

end Stages

/-! A tick, a call and a run. -/

/-- The changes of a tick that starts at `sim`, with the clock advanced, keep
the property. -/
structure TickRule (fits : Components → Prop) (sim : GameSimulation) : Prop where
  moves : ∀ entity row, sim.registry.get? entity = some row → fits row →
    fits (movedRow sim entity row)
  finishes : ∀ row, fits row → fits (finishWarmup sim.config sim.timeMs row).1
  spawns : ∀ entity row request id, sim.registry.get? entity = some row → fits row →
    projectileRequest sim.config sim.timeMs (movedRow sim entity row) = some request →
    fits (projectileRow sim.timeMs id request)
  flies : ∀ row projectile transform, fits row → row.projectile = some projectile →
    (fly sim.config row).transform = some transform →
    projectileGone sim.config sim.timeMs projectile transform = false → fits (fly sim.config row)
  strikes : ∀ projectileId projectile row, fits row →
    fits (damagePlayer sim.config sim.timeMs projectileId projectile row).1
  respawns : ∀ row, fits row → fits (respawnPlayer sim.config sim.timeMs row).1

section Tick

variable {fits : Components → Prop} {start : GameSimulation}

theorem TickRule.moved (rule : TickRule fits start) (order : LoopOrder)
    (started : EveryRow fits start) : EveryRow fits (processInputs order start) :=
  process_inputs_every_row order start rule.moves started

theorem TickRule.warmed (rule : TickRule fits start) (order : LoopOrder)
    (started : EveryRow fits start) :
    EveryRow fits (processWeaponWarmups order (processInputs order start)) := by
  have tables := process_inputs_tables order start
  apply process_warmups_every_row
  · rw [tables.config, tables.timeMs]
    exact rule.finishes
  · intro entity row request id present requested
    rw [process_inputs_row] at present
    obtain ⟨before, found, isRow⟩ := Option.map_eq_some_iff.mp present
    subst isRow
    rw [tables.config, tables.timeMs] at requested
    rw [tables.timeMs]
    exact rule.spawns entity before request id found (started entity before found) requested
  · exact rule.moved order started

theorem TickRule.flown (rule : TickRule fits start) (order : LoopOrder)
    (started : EveryRow fits start) :
    EveryRow fits (processProjectiles order
      (processWeaponWarmups order (processInputs order start))) := by
  have tables := process_inputs_tables order start
  have setup := process_warmups_setup order (processInputs order start)
  apply process_projectiles_every_row
  · rw [setup.config, setup.timeMs, tables.config, tables.timeMs]
    exact rule.flies
  · rw [setup.config, setup.timeMs, tables.config, tables.timeMs]
    exact rule.strikes
  · exact rule.warmed order started

end Tick

theorem tick_every_row {fits : Components → Prop} (order : LoopOrder) (sim : GameSimulation)
    (rule : TickRule fits (advanceClock sim)) (all : EveryRow fits sim) :
    EveryRow fits (tickFixed order sim) := by
  have started : EveryRow fits (advanceClock sim) := all
  unfold tickFixed
  generalize advanceClock sim = start at rule started
  have tables := process_inputs_tables order start
  have setup := (process_warmups_setup order (processInputs order start)).trans
    (process_projectiles_setup order _)
  apply for_each_every_row
  · rw [setup.config, setup.timeMs, tables.config, tables.timeMs]
    exact rule.respawns
  · exact rule.flown order started

theorem submit_login_every_row {fits : Components → Prop} (sim : GameSimulation)
    (command : LoginCommand)
    (enters : ∀ id clientId, fits (playerRow sim.config id clientId
      (spawnTransformForClient sim.config clientId).x
      (spawnTransformForClient sim.config clientId).y))
    (all : EveryRow fits sim) : EveryRow fits (submitLogin sim command).1 := by
  rcases submit_login_cases sim command with same | ⟨_, _, joined⟩
  · rw [same]
    exact all
  · have fitting := enters sim.nextNetworkId command.header.clientId
    rw [joined]
    exact create_every_row (create_player_creates _ _ _ _) fitting all

theorem submit_input_every_row {fits : Components → Prop} (sim : GameSimulation)
    (packet : ClientInputPacket) (all : EveryRow fits sim) :
    EveryRow fits (submitInput sim packet).1 := by
  rcases submit_input_cases sim packet with ⟨same, _⟩ | ⟨_, _, accepted⟩
  · rw [same]
    exact all
  · rw [accepted]
    exact all

/-- What the rows need of a call at a state: a login enters a fitting row and a
tick keeps the property. -/
def CallRule (fits : Components → Prop) (sim : GameSimulation) : ServerCall → Prop
  | .login _ => ∀ id clientId, fits (playerRow sim.config id clientId
      (spawnTransformForClient sim.config clientId).x
      (spawnTransformForClient sim.config clientId).y)
  | .input _ => True
  | .tick _ => TickRule fits (advanceClock sim)

/-- A property of what the identity tables see of a row needs to hold of the new
rows only. -/
theorem standing_rule {fits : Components → Prop} (sim : GameSimulation) (call : ServerCall)
    (kept : ∀ row later, SameStanding row later → fits row → fits later)
    (enters : ∀ config id clientId x y, fits (playerRow config id clientId x y))
    (spawns : ∀ timeMs id request, fits (projectileRow timeMs id request)) :
    CallRule fits sim call := by
  cases call with
  | login command => exact fun id clientId => enters _ id clientId _ _
  | input packet => trivial
  | tick order =>
      unfold CallRule
      constructor
      case moves =>
        intro entity row _ fit
        obtain ⟨_, _, _, _, moved, placed, moving⟩ := moved_row_changes (advanceClock sim) entity row
        rw [moved]
        exact kept row _ ⟨rfl, rfl, rfl, rfl, fun had => placed ▸ had, fun had => moving ▸ had⟩ fit
      case finishes =>
        intro row fit
        obtain ⟨_, finished⟩ :=
          finish_warmup_changes (advanceClock sim).config (advanceClock sim).timeMs row
        rw [finished]
        exact kept row _ ⟨rfl, rfl, rfl, rfl, id, id⟩ fit
      case spawns => exact fun _ _ request id _ _ _ => spawns _ id request
      case flies =>
        intro row _ _ fit _ _ _
        obtain ⟨_, flown, placed⟩ := fly_changes (advanceClock sim).config row
        rw [flown]
        exact kept row _ ⟨rfl, rfl, rfl, rfl, fun had => placed ▸ had, id⟩ fit
      case strikes =>
        intro projectileId projectile row fit
        obtain ⟨_, damaged, client⟩ := damage_changes (advanceClock sim).config
          (advanceClock sim).timeMs projectileId projectile row
        rw [damaged]
        exact kept row _ ⟨rfl, client, rfl, rfl, id, id⟩ fit
      case respawns =>
        intro row fit
        obtain ⟨_, _, _, _, respawned, client, placed, moving⟩ :=
          respawn_changes (advanceClock sim).config (advanceClock sim).timeMs row
        rw [respawned]
        exact kept row _ ⟨rfl, client, rfl, rfl, placed, moving⟩ fit

theorem server_step_every_row {fits : Components → Prop} (sim : GameSimulation) (call : ServerCall)
    (rule : CallRule fits sim call) (all : EveryRow fits sim) :
    EveryRow fits (serverStep sim call) := by
  cases call with
  | login command => exact submit_login_every_row sim command rule all
  | input packet => exact submit_input_every_row sim packet all
  | tick order => exact tick_every_row order sim rule all

/-- A property that every call keeps under a configuration holds of every row
of every run. -/
theorem server_run_every_row {fits : Components → Prop} (config : SimulationConfig)
    (rule : ∀ sim call, sim.config = config → CallRule fits sim call) (calls : List ServerCall) :
    EveryRow fits (serverRun config calls) := by
  have both := Runs.run_invariant serverStep
    (fun sim => sim.config = config ∧ EveryRow fits sim)
    (fun sim call kept => ⟨(server_step_config sim call).trans kept.1,
      server_step_every_row sim call (rule sim call kept.1) kept.2⟩)
    { config := config } ⟨rfl, by intro entity row present; simp at present⟩ calls
  exact both.2

end Brawololo.RowRules
