import Brawololo.AreaOfInterest

/-!
The id counter wraps. A lone player whose bow fires at once and whose
projectiles do not live allocates one id in every tick and leaves everything
else as it was, so a long enough fight brings the counter back to the id that
the player still carries.
-/

namespace Brawololo.IdReuse

open GameTypes EntityStore Simulation Simulation.GameSimulation SimulationStages
open SimulationSnapshots EntityIdentity AreaOfInterest

def instantBow : WeaponDefinition := { type := .bow, serverSpawnedProjectile := true }

def rapidConfig : SimulationConfig := { weapons := [instantBow] }

def fireInput : InputFrame := { fire := true }

def shotPacket (sequence : CommandSequence) : ClientInputPacket :=
  { header := { clientId := 1, sequence := sequence }, input := fireInput }

def shots : Nat → List ServerCall
  | 0 => []
  | count + 1 =>
      shots count ++ [.input (shotPacket (UInt32.ofNat (count + 1))), .tick .stored]

/-- Client 1 joins and then fires once in every tick. -/
def rapidFire (count : Nat) : List ServerCall :=
  .login { header := { clientId := 1 } } :: shots count

/-! The shooter. -/

def shooterId : NetworkEntityId := { value := 1 }

def shooterPlace : TransformComponent := spawnTransformForClient rapidConfig 1

/-- The shooter's row, whose weapon is the only component that changes. -/
def shooterRow (weapon : WeaponStateComponent) : Components :=
  { playerRow rapidConfig shooterId 1 shooterPlace.x shooterPlace.y with weapon := some weapon }

/-- The simulation after this many shots: the shooter alone. -/
structure LoneShooter (sim : GameSimulation) (count : Nat) : Prop where
  config : sim.config = rapidConfig
  pending : sim.pendingInputs = []
  accepted : sim.lastAcceptedSequence[(1 : ClientId)]? = some (UInt32.ofNat count)
  entry : ∀ clientId : ClientId,
    sim.playerByClient[clientId]? = if clientId = 1 then some shooterId else none
  seats : sim.playerByClient.size = 1
  named : sim.entityByNetworkId[shooterId]? = some 0
  created : sim.registry.created = count + 1
  counter : sim.nextNetworkId = idOf (count + 1)
  shooter : ∃ startedAtMs completesAtMs, sim.registry.get? 0 =
    some (shooterRow { warmupStartedAtMs := startedAtMs, warmupCompletesAtMs := completesAtMs })
  alone : ∀ entity, entity ≠ 0 → sim.registry.get? entity = none

theorem joined_alone : LoneShooter (serverRun rapidConfig (rapidFire 0)) 0 where
  config := rfl
  pending := rfl
  accepted := by decide +kernel
  entry := by
    intro clientId
    have inserted := get_insert ({} : UnorderedMap ClientId NetworkEntityId) 1 clientId shooterId
    by_cases same : clientId = 1
    · subst same
      rw [if_pos rfl]
      decide +kernel
    · rw [if_neg same]
      rw [if_neg (Ne.symm same)] at inserted
      exact inserted.trans (by simp)
  seats := by decide +kernel
  named := by decide +kernel
  created := by decide +kernel
  counter := by decide +kernel
  shooter := ⟨0, 0, by decide +kernel⟩
  alone := by
    intro entity other
    cases present : (serverRun rapidConfig (rapidFire 0)).registry.get? entity with
    | none => rfl
    | some row =>
        have below := Registry.get?_lt _ present
        have one : (serverRun rapidConfig (rapidFire 0)).registry.created = 1 := by decide +kernel
        rw [one] at below
        exact absurd (Nat.lt_one_iff.mp below) other

/-- Only one live entity passes, so the view is that entity. -/
theorem view_single {registry : Registry Components} (order : LoopOrder) (site : LoopSite)
    (holds : Components → Bool) (entity : Entity)
    (only : ∀ other, (∃ row, registry.get? other = some row ∧ holds row = true) ↔
      other = entity) : registry.view order site holds = [entity] := by
  apply List.perm_singleton.mp
  rw [List.perm_ext_iff_of_nodup (registry.nodup_view order site holds)
    (List.nodup_singleton entity)]
  intro other
  rw [Registry.mem_view, only, List.mem_singleton]

/-! One shot. -/

/-- The weapon between the input that fires it and the warmup that follows. -/
def warmedUp (timeMs : TimestampMs) : WeaponStateComponent :=
  { warming := true, warmupStartedAtMs := timeMs, warmupCompletesAtMs := timeMs + 0 }

def shotRequest : ProjectileRequest :=
  { ownerId := shooterId, transform := shooterPlace, weapon := instantBow }

/-- The registry holds the shooter with this weapon and nobody else. -/
structure Holds (registry : Registry Components) (weapon : WeaponStateComponent) : Prop where
  shooter : registry.get? 0 = some (shooterRow weapon)
  alone : ∀ entity, entity ≠ 0 → registry.get? entity = none

theorem Holds.passes {registry : Registry Components} {weapon : WeaponStateComponent}
    (holds : Holds registry weapon) {test : Components → Bool}
    (passes : test (shooterRow weapon) = true) (other : Entity) :
    (∃ row, registry.get? other = some row ∧ test row = true) ↔ other = 0 := by
  constructor
  · rintro ⟨row, present, _⟩
    by_contra different
    rw [holds.alone other different] at present
    cases present
  · rintro rfl
    exact ⟨_, holds.shooter, passes⟩

theorem shot_accepted {sim : GameSimulation} {count : Nat} (room : count + 1 < 2 ^ 32)
    (lone : LoneShooter sim count) :
    (submitInput sim (shotPacket (UInt32.ofNat (count + 1)))).1 =
      { sim with
        lastAcceptedSequence := sim.lastAcceptedSequence.insert 1 (UInt32.ofNat (count + 1))
        pendingInputs := [shotPacket (UInt32.ofNat (count + 1))] } := by
  have entry : sim.playerByClient[(shotPacket (UInt32.ofNat (count + 1))).header.clientId]? =
      some shooterId := by
    have listed := lone.entry 1
    rwa [if_pos rfl] at listed
  have newer : ¬ UInt32.ofNat (count + 1) ≤ UInt32.ofNat count := by
    rw [UInt32.le_iff_toNat_le, UInt32.toNat_ofNat', UInt32.toNat_ofNat']
    omega
  have stale : (sim.lastAcceptedSequence[
      (shotPacket (UInt32.ofNat (count + 1))).header.clientId]?).any
      ((shotPacket (UInt32.ofNat (count + 1))).header.sequence ≤ ·) = false := by
    have last : sim.lastAcceptedSequence[
        (shotPacket (UInt32.ofNat (count + 1))).header.clientId]? =
        some (UInt32.ofNat count) := lone.accepted
    rw [last]
    exact decide_eq_false newer
  unfold submitInput
  dsimp only
  rw [entry]
  dsimp only
  rw [stale, lone.pending]
  rfl

/-- The shooter stands still: its input has no direction. -/
theorem shooter_stands (weapon : WeaponStateComponent) :
    (integrateMovement rapidConfig
        { shooterRow weapon with inputIntent := some (intentOf fireInput) }).1 =
      { shooterRow weapon with inputIntent := some (intentOf fireInput) } := by
  have still : steer rapidConfig (some (intentOf fireInput)) {} = {} := by decide +kernel
  have stays : clampToMap rapidConfig (travel rapidConfig {} shooterPlace) = shooterPlace := by
    decide +kernel
  simp [integrateMovement, shooterRow, playerRow, Components.defeated, still, stays]

theorem shooter_moved {sim : GameSimulation} {weapon : WeaponStateComponent}
    (config : sim.config = rapidConfig) (idle : weapon.warming = false)
    (isBow : weapon.type = .bow) {sequence : CommandSequence}
    (pending : sim.pendingInputs = [shotPacket sequence]) (target : sim.inputTarget 1 = some 0) :
    movedRow sim 0 (shooterRow weapon) = shooterRow (warmedUp sim.timeMs) := by
  have own : inputsFor sim 0 = [shotPacket sequence] := by
    simp [inputsFor, pending, shotPacket, target]
  have fired : (applyInputToEntity rapidConfig sim.timeMs (shotPacket sequence)
      (shooterRow weapon)).1 =
      { shooterRow (warmedUp sim.timeMs) with inputIntent := some (intentOf fireInput) } := by
    obtain ⟨type, warming, startedAtMs, completesAtMs⟩ := weapon
    cases idle
    cases isBow
    rfl
  have applied : applyInputs rapidConfig sim.timeMs [shotPacket sequence] (shooterRow weapon) =
      { shooterRow (warmedUp sim.timeMs) with inputIntent := some (intentOf fireInput) } := fired
  unfold movedRow
  rw [own, config, applied]
  dsimp only
  rw [shooter_stands]
  rfl

/-- What the stages of a tick see of the lone shooter. -/
structure Alone (sim : GameSimulation) (count : Nat) (weapon : WeaponStateComponent) : Prop where
  config : sim.config = rapidConfig
  named : sim.entityByNetworkId[shooterId]? = some 0
  created : sim.registry.created = count + 1
  counter : sim.nextNetworkId = idOf (count + 1)
  holds : Holds sim.registry weapon

theorem inputs_alone (order : LoopOrder) {sim : GameSimulation} {count : Nat}
    {weapon : WeaponStateComponent} (alone : Alone sim count weapon)
    (idle : weapon.warming = false) (isBow : weapon.type = .bow) {sequence : CommandSequence}
    (pending : sim.pendingInputs = [shotPacket sequence]) (target : sim.inputTarget 1 = some 0) :
    Alone (processInputs order sim) count (warmedUp sim.timeMs) := by
  have tables := process_inputs_tables order sim
  have moved := shooter_moved alone.config idle isBow pending target
  refine ⟨tables.config.trans alone.config, ?_, tables.created.trans alone.created,
    tables.nextNetworkId.trans alone.counter, ?_, ?_⟩
  · rw [tables.entityByNetworkId, alone.named]
  · rw [process_inputs_row, alone.holds.shooter, Option.map_some, moved]
  · intro entity other
    rw [process_inputs_row, alone.holds.alone entity other, Option.map_none]

/-- The shooter and the projectile that it has just fired. -/
structure Fired (sim : GameSimulation) (count : Nat) : Prop where
  config : sim.config = rapidConfig
  named : sim.entityByNetworkId[shooterId]? = some 0
  created : sim.registry.created = count + 2
  counter : sim.nextNetworkId = idOf (count + 2)
  shooter : ∃ startedAtMs completesAtMs, sim.registry.get? 0 =
    some (shooterRow { warmupStartedAtMs := startedAtMs, warmupCompletesAtMs := completesAtMs })
  shot : sim.registry.get? (count + 1) =
    some (projectileRow sim.timeMs (idOf (count + 1)) shotRequest)
  alone : ∀ entity, entity ≠ 0 → entity ≠ count + 1 → sim.registry.get? entity = none

/-- The id of a shot is not the shooter's, as long as the counter does not reach it again. -/
theorem shot_id_fresh {count : Nat} (room : count + 1 < 2 ^ 32) : idOf (count + 1) ≠ shooterId := by
  intro same
  have value : UInt32.ofNat (count + 2) = 1 := congrArg NetworkEntityId.value same
  have counted := congrArg UInt32.toNat value
  rw [UInt32.toNat_ofNat', UInt32.toNat_one] at counted
  omega

theorem id_of_succ (entity : Nat) : ({ value := (idOf entity).value + 1 } : NetworkEntityId) =
    idOf (entity + 1) := by
  rw [idOf, idOf, UInt32.ofNat_add (entity + 1) 1]
  rfl

theorem warmups_alone (order : LoopOrder) {sim : GameSimulation} {count : Nat}
    (room : count + 1 < 2 ^ 32) (alone : Alone sim count (warmedUp sim.timeMs)) :
    Fired (processWeaponWarmups order sim) count := by
  have warmed : inWarmupView (shooterRow (warmedUp sim.timeMs)) = true := rfl
  have view : sim.registry.view order .weaponWarmups inWarmupView = [0] :=
    view_single order _ _ 0 (alone.holds.passes warmed)
  -- A warmup that takes no time is complete in the tick that starts it.
  have complete : warmupComplete sim.timeMs (shooterRow (warmedUp sim.timeMs))
      (warmedUp sim.timeMs) = true := by
    simp [warmupComplete, shooterRow, playerRow, Components.defeated, warmedUp]
  have request : projectileRequest rapidConfig sim.timeMs (shooterRow (warmedUp sim.timeMs)) =
      some shotRequest := by
    unfold projectileRequest
    change (if warmupComplete sim.timeMs (shooterRow (warmedUp sim.timeMs))
      (warmedUp sim.timeMs) then some shotRequest else none) = some shotRequest
    rw [if_pos complete]
  have finished : (finishWarmup rapidConfig sim.timeMs (shooterRow (warmedUp sim.timeMs))).1 =
      shooterRow { warmedUp sim.timeMs with warming := false } := by
    unfold finishWarmup
    change (if false = true then _ else if warmupComplete sim.timeMs
      (shooterRow (warmedUp sim.timeMs)) (warmedUp sim.timeMs) then _ else _ :
        Components × EventList).1 = _
    rw [if_neg (by simp), if_pos complete]
    rfl
  have tables := for_each_tables (finishWarmup sim.config sim.timeMs) order .weaponWarmups
    inWarmupView sim
  have stage : processWeaponWarmups order sim = createProjectile
      (sim.forEachEntity order .weaponWarmups inWarmupView (finishWarmup sim.config sim.timeMs))
      shotRequest := by
    simp only [processWeaponWarmups, view, alone.holds.shooter, alone.config, request,
      List.filterMap_cons, Option.bind_some, List.filterMap_nil, List.foldl]
  have created := tables.created.trans alone.created
  have counter := tables.nextNetworkId.trans alone.counter
  rw [stage]
  generalize swept : sim.forEachEntity order .weaponWarmups inWarmupView
    (finishWarmup sim.config sim.timeMs) = fired at tables created counter
  have row (entity : Entity) : (createProjectile fired shotRequest).registry.get? entity =
      if entity = count + 1 then some (projectileRow sim.timeMs (idOf (count + 1)) shotRequest)
      else (sim.registry.get? entity).map fun row =>
        if inWarmupView row then (finishWarmup sim.config sim.timeMs row).1 else row := by
    unfold createProjectile
    dsimp only [GameSimulation.allocateNetworkId]
    rw [Registry.get?_create, created, counter, tables.timeMs, ← swept, for_each_row]
  refine ⟨tables.config.trans alone.config, ?_, congrArg (· + 1) created, ?_, ?_, ?_, ?_⟩
  · change (fired.entityByNetworkId.insert fired.nextNetworkId _)[shooterId]? = some 0
    rw [get_insert, counter, if_neg (shot_id_fresh room), tables.entityByNetworkId, alone.named]
  · change ({ value := fired.nextNetworkId.value + 1 } : NetworkEntityId) = _
    rw [counter, id_of_succ]
  · refine ⟨sim.timeMs, sim.timeMs + 0, ?_⟩
    rw [row, if_neg (Nat.succ_ne_zero count).symm, alone.holds.shooter, Option.map_some, if_pos warmed,
      alone.config, finished]
    rfl
  · rw [row, if_pos rfl]
    change _ = some (projectileRow fired.timeMs (idOf (count + 1)) shotRequest)
    rw [tables.timeMs]
  · intro entity notShooter notShot
    rw [row, if_neg notShot, alone.holds.alone entity notShooter, Option.map_none]

/-- The shot is over in the tick that fires it. -/
theorem shot_over {sim : GameSimulation} {count : Nat} {row : Components}
    {projectile : ProjectileComponent} (transform : TransformComponent)
    (isShot : row = projectileRow sim.timeMs (idOf (count + 1)) shotRequest)
    (carries : row.projectile = some projectile) :
    projectileGone sim.config sim.timeMs projectile transform = true := by
  subst isShot
  cases carries
  simp [projectileGone, shotRequest, instantBow]

/-- The shot does not live: the loop that moves it also removes it. -/
theorem projectiles_alone (order : LoopOrder) {sim : GameSimulation} {count : Nat}
    (room : count + 1 < 2 ^ 32) (fired : Fired sim count) :
    ∃ startedAtMs completesAtMs, Alone (processProjectiles order sim) (count + 1)
      { warmupStartedAtMs := startedAtMs, warmupCompletesAtMs := completesAtMs } := by
  obtain ⟨startedAtMs, completesAtMs, shooter⟩ := fired.shooter
  refine ⟨startedAtMs, completesAtMs, ?_⟩
  -- Nothing but the shot flies.
  have view : sim.registry.view order .projectiles inProjectileView = [count + 1] := by
    apply view_single
    intro other
    constructor
    · rintro ⟨row, present, flies⟩
      by_contra notShot
      by_cases isShooter : other = 0
      · rw [isShooter, shooter] at present
        cases present
        cases flies
      · rw [fired.alone other isShooter notShot] at present
        cases present
    · rintro rfl
      exact ⟨_, fired.shot, rfl⟩
  have turn := process_projectile_turn
    (sim.registry.view order .projectileTargets inTargetView) sim [] (count + 1)
  have stage : processProjectiles order sim = destroyProjectile
      (sim.updateEntity (fun row => (fly sim.config row, [])) (count + 1)) (count + 1) := by
    unfold processProjectiles
    rw [view]
    dsimp only [List.foldl]
    generalize processProjectile _ (sim, []) (count + 1) = result at turn ⊢
    cases turn with
    | skipped absent =>
        have flies := absent _ fired.shot
        cases flies
    | gone => rfl
    | flew row projectile transform present carries flown stays clear =>
        -- its lifetime is over at once
        rw [fired.shot] at present
        rw [shot_over transform (Option.some.inj present).symm carries] at stays
        cases stays
    | struck row identity projectile transform target targetRow present carries flown stays =>
        rw [fired.shot] at present
        rw [shot_over transform (Option.some.inj present).symm carries] at stays
        cases stays
  have tables := update_entity_tables (fun row => (fly sim.config row, [])) sim (count + 1)
  have rows := update_entity_row (fun row => (fly sim.config row, [])) sim (count + 1)
  rw [stage]
  generalize sim.updateEntity (fun row => (fly sim.config row, [])) (count + 1) = flown
    at tables rows
  have shot : (flown.registry.get? (count + 1)).bind (fun row => row.identity) =
      some { id := idOf (count + 1) } := by
    rw [rows, if_pos rfl, fired.shot]
    rfl
  have destroyed : destroyProjectile flown (count + 1) =
      { flown with entityByNetworkId := flown.entityByNetworkId.erase (idOf (count + 1))
                   registry := flown.registry.destroy (count + 1) } := by
    unfold destroyProjectile
    rw [shot]
  rw [destroyed]
  refine ⟨tables.config.trans fired.config, ?_, tables.created.trans fired.created,
    tables.nextNetworkId.trans fired.counter, ?_, ?_⟩
  · change (flown.entityByNetworkId.erase (idOf (count + 1)))[shooterId]? = some 0
    rw [get_erase, if_neg (shot_id_fresh room), tables.entityByNetworkId, fired.named]
  · change (flown.registry.destroy (count + 1)).get? 0 = _
    rw [Registry.get?_destroy, if_neg (Nat.succ_ne_zero count).symm, rows,
      if_neg (Nat.succ_ne_zero count).symm, shooter]
  · intro entity notShooter
    change (flown.registry.destroy (count + 1)).get? entity = none
    rw [Registry.get?_destroy]
    by_cases isShot : entity = count + 1
    · rw [if_pos isShot]
    · rw [if_neg isShot, rows, if_neg isShot, fired.alone entity notShooter isShot]

theorem respawns_alone (order : LoopOrder) {sim : GameSimulation} {count : Nat}
    {weapon : WeaponStateComponent} (alone : Alone sim count weapon) :
    Alone (processRespawns order sim) count weapon := by
  have tables := process_respawns_tables order sim
  refine ⟨tables.config.trans alone.config, ?_, tables.created.trans alone.created,
    tables.nextNetworkId.trans alone.counter, ?_, ?_⟩
  · rw [tables.entityByNetworkId, alone.named]
  · rw [process_respawns_row, alone.holds.shooter, Option.map_some, respawn_waits]
    · rw [ite_self]
    · -- the shooter is not defeated
      rintro player ⟨⟩ ⟨⟩
  · intro entity other
    rw [process_respawns_row, alone.holds.alone entity other, Option.map_none]

/-- One shot: the id counter is one higher and the shooter is alone again. -/
theorem shot_alone {sim : GameSimulation} {count : Nat} (room : count + 1 < 2 ^ 32)
    (lone : LoneShooter sim count) :
    LoneShooter (tickFixed .stored
      (submitInput sim (shotPacket (UInt32.ofNat (count + 1)))).1) (count + 1) := by
  obtain ⟨startedAtMs, completesAtMs, shooter⟩ := lone.shooter
  -- The input of the shot is accepted and waits for the tick.
  rw [shot_accepted room lone]
  generalize submitted : ({ sim with
    lastAcceptedSequence := sim.lastAcceptedSequence.insert 1 (UInt32.ofNat (count + 1))
    pendingInputs := [shotPacket (UInt32.ofNat (count + 1))] } : GameSimulation) = aimed
  have alone : Alone (advanceClock aimed) count
      { warmupStartedAtMs := startedAtMs, warmupCompletesAtMs := completesAtMs } := by
    subst submitted
    exact ⟨lone.config, lone.named, lone.created, lone.counter, shooter, lone.alone⟩
  have target : (advanceClock aimed).inputTarget 1 = some 0 := by
    have entry := lone.entry 1
    rw [if_pos rfl] at entry
    subst submitted
    change (sim.playerByClient[(1 : ClientId)]?).bind sim.entityFor = some 0
    rw [entry]
    exact lone.named
  have pending : (advanceClock aimed).pendingInputs = [shotPacket (UInt32.ofNat (count + 1))] := by
    subst submitted
    rfl
  have warmed := inputs_alone .stored alone rfl rfl pending target
  rw [← (process_inputs_tables .stored (advanceClock aimed)).timeMs] at warmed
  have fired := warmups_alone .stored room warmed
  obtain ⟨laterStartedAtMs, laterCompletesAtMs, flown⟩ := projectiles_alone .stored room fired
  have rested : Alone (tickFixed .stored aimed) (count + 1) _ := respawns_alone .stored flown
  obtain ⟨config, players, sequences⟩ := tick_setup .stored aimed
  refine ⟨rested.config, tick_pending .stored aimed, ?_, ?_, ?_, rested.named, rested.created, rested.counter,
    ⟨_, _, rested.holds.shooter⟩, rested.holds.alone⟩
  · rw [sequences]
    subst submitted
    rw [get_insert, if_pos rfl]
  · intro clientId
    rw [players]
    subst submitted
    exact lone.entry clientId
  · rw [players]
    subst submitted
    exact lone.seats

theorem rapid_fire_alone (count : Nat) (room : count < 2 ^ 32) :
    LoneShooter (serverRun rapidConfig (rapidFire count)) count := by
  induction count with
  | zero => exact joined_alone
  | succ count ih =>
      have before := ih (by omega)
      have split : rapidFire (count + 1) = rapidFire count ++
          [.input (shotPacket (UInt32.ofNat (count + 1))), .tick .stored] := rfl
      rw [split, server_run_append]
      simp only [Runs.run, List.foldl_cons, List.foldl_nil, serverStep]
      exact shot_alone room before

/-! The counter has come round. -/

def lateLogin : LoginCommand := { header := { clientId := 14 } }

def latePlace : TransformComponent := spawnTransformForClient rapidConfig 14

/-- Client 14 joins after the shots. -/
def rapidFireThenLogin (count : Nat) : List ServerCall := rapidFire count ++ [.login lateLogin]

def lateRow : Components := playerRow rapidConfig shooterId 14 latePlace.x latePlace.y

/-- Both players are alive under one id, which now names the second. -/
structure SharedId (sim : GameSimulation) : Prop where
  config : sim.config = rapidConfig
  first : sim.playerByClient[(1 : ClientId)]? = some shooterId
  second : sim.playerByClient[(14 : ClientId)]? = some shooterId
  named : sim.entityByNetworkId[shooterId]? = some 4294967296
  shooter : ∃ startedAtMs completesAtMs, sim.registry.get? 0 =
    some (shooterRow { warmupStartedAtMs := startedAtMs, warmupCompletesAtMs := completesAtMs })
  late : sim.registry.get? 4294967296 = some lateRow
  alone : ∀ entity, entity ≠ 0 → entity ≠ 4294967296 → sim.registry.get? entity = none

/-- There is a seat for client 14. -/
theorem late_login_free {sim : GameSimulation} {count : Nat} (lone : LoneShooter sim count) :
    lateLogin.header.clientId ∉ sim.playerByClient ∧
      sim.playerByClient.size < sim.config.maxPlayers.toNat := by
  constructor
  · rw [Std.ExtTreeMap.mem_iff_isSome_getElem?, lone.entry]
    decide
  · rw [lone.seats, lone.config]
    decide

theorem late_login_joins {sim : GameSimulation} {count : Nat} (lone : LoneShooter sim count) :
    (submitLogin sim lateLogin).1 = createPlayer
      { sim with lastAcceptedSequence := sim.lastAcceptedSequence.insert 14 0 } 14
      (spawnTransformForClient sim.config 14).x (spawnTransformForClient sim.config 14).y := by
  obtain ⟨fresh, seat⟩ := late_login_free lone
  exact fresh_login_joins sim lateLogin fresh seat

theorem late_login_shares {sim : GameSimulation} {count : Nat} (wraps : count = 4294967295)
    (lone : LoneShooter sim count) : SharedId (submitLogin sim lateLogin).1 := by
  subst wraps
  have counter : sim.nextNetworkId = shooterId := lone.counter
  have created : sim.registry.created = 4294967296 := lone.created
  rw [late_login_joins lone]
  unfold createPlayer
  dsimp only [GameSimulation.allocateNetworkId]
  refine ⟨lone.config, ?_, ?_, ?_, ?_, ?_, ?_⟩
  · rw [get_insert, if_neg (by decide), lone.entry, if_pos rfl]
  · rw [get_insert, if_pos (by decide), counter]
  · rw [get_insert, if_pos counter, created]
  · obtain ⟨startedAtMs, completesAtMs, shooter⟩ := lone.shooter
    refine ⟨startedAtMs, completesAtMs, ?_⟩
    rw [Registry.get?_create, created, if_neg (by decide), shooter]
  · rw [Registry.get?_create, created, if_pos rfl, lone.config, counter]
    rfl
  · intro entity notShooter notLate
    rw [Registry.get?_create, created, if_neg notLate, lone.alone entity notShooter]

/-- When client 14 joins, the next id is the one that client 1 carries. -/
theorem rapid_fire_then_login_shares {count : Nat} (wraps : count = 4294967295) :
    SharedId (serverRun rapidConfig (rapidFireThenLogin count)) := by
  have lone := rapid_fire_alone count (by omega)
  rw [rapidFireThenLogin, server_run_append]
  exact late_login_shares wraps lone

/-! What the shared id does to the area of interest. -/

theorem rapid_map_extent : HasExtent rapidConfig.map :=
  ⟨by decide, by decide, by decide, by decide, by decide, by decide⟩

theorem shared_id_inexact {sim : GameSimulation} (shared : SharedId sim) : ¬ ExactInterest sim := by
  intro exact
  obtain ⟨startedAtMs, completesAtMs, shooter⟩ := shared.shooter
  have bodied : Bodied sim := by
    intro entity row present
    by_cases isShooter : entity = 0
    · rw [isShooter, shooter] at present
      cases present
      exact ⟨rfl, rfl, rfl⟩
    · by_cases isLate : entity = 4294967296
      · rw [isLate, shared.late] at present
        cases present
        exact ⟨rfl, rfl, rfl⟩
      · rw [shared.alone entity isShooter isLate] at present
        cases present
  have player : PlayerAt sim 1 shooterId 0 _ shooterPlace := ⟨shooter, rfl, rfl, rfl⟩
  obtain ⟨expected, distinct, inView, shown⟩ := exact.withPlayer 1 _ _ _ _ player .stored 0 0
  obtain ⟨listed, _, visible, alsoShown⟩ := build_snapshot_lists .stored sim bodied 1 0 0
  -- The observer's place is read through its id, which leads to the other player.
  have chunk := observer_chunk_of_player shared.first shared.named shared.late rfl rfl rfl
  rw [chunk, shared.config] at visible
  have both : [0, 4294967296] ⊆ listed := by
    intro entity member
    rcases List.mem_pair.mp member with rfl | rfl
    · exact (visible 0).mpr ⟨_, shooter, rfl⟩
    · refine (visible 4294967296).mpr ⟨_, shared.late, ?_⟩
      decide +kernel
  have atLeast := (List.subperm_of_subset (by decide) both).length_le
  have one : expected ⊆ [0] := by
    intro entity member
    obtain ⟨row, present, passes⟩ := (inView entity).mp member
    rw [List.mem_singleton]
    by_contra notShooter
    by_cases isLate : entity = 4294967296
    · rw [isLate, shared.late] at present
      cases present
      rcases passes with owned | ⟨place, isPlace, near⟩
      · cases owned
      · cases isPlace
        have tooFar := near.x
        rw [shared.config] at tooFar
        exact absurd tooFar (by decide +kernel)
    · rw [shared.alone entity notShooter isLate] at present
      cases present
  have atMost := (List.subperm_of_subset distinct one).length_le
  have sameLength := shown.length_eq.trans alsoShown.length_eq.symm
  simp only [List.length_cons, List.length_nil] at atLeast atMost
  omega

/-- The area of interest is not exact once an id names two live players. -/
theorem area_of_interest_inexact_after_reuse :
    rapidConfig.mode = .serverAuthoritative ∧ HasExtent rapidConfig.map ∧
      ¬ ExactInterest (serverRun rapidConfig (rapidFireThenLogin 4294967295)) :=
  ⟨rfl, rapid_map_extent, shared_id_inexact (rapid_fire_then_login_shares rfl)⟩

end Brawololo.IdReuse
