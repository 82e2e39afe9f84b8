import Brawololo.EntityIdentity

/-!
What a tick does to the weapon of a row: an input starts a warmup, the warmup
stage ends it, and a completed one asks for a projectile. Each function has one
lemma that says in cases what it returns.
-/

namespace Brawololo.WeaponStages

open GameTypes EntityStore Simulation Simulation.GameSimulation SimulationStages EntityIdentity

variable (config : SimulationConfig) (timeMs : TimestampMs)

/-! Starting a warmup. -/

def startedWeapon (definition : WeaponDefinition) (weapon : WeaponStateComponent) :
    WeaponStateComponent :=
  { weapon with warming := true, warmupStartedAtMs := timeMs,
                warmupCompletesAtMs := timeMs + definition.warmupMs }

def startedEvent (id : NetworkEntityId) (definition : WeaponDefinition)
    (weapon : WeaponStateComponent) : WeaponWarmupStarted :=
  { entityId := id, startedAtMs := timeMs, completesAtMs := timeMs + definition.warmupMs,
    weaponType := weapon.type }

/-- A row starts a warmup if it has an idle weapon that the table knows. -/
theorem start_warmup_cases (row : Components) :
    startWarmup config timeMs row = (row, []) ∨
      ∃ identity weapon definition, row.identity = some identity ∧ row.weapon = some weapon ∧
        weapon.type ≠ .none ∧ weapon.warming = false ∧
        findWeaponDefinition config.weapons weapon.type = some definition ∧
        startWarmup config timeMs row =
          ({ row with weapon := some (startedWeapon timeMs definition weapon) },
            [.weaponWarmupStarted (startedEvent timeMs identity.id definition weapon)]) := by
  unfold startWarmup
  split
  · next weapon identity isWeapon named =>
      split
      · exact Or.inl rfl
      · next definition found =>
          split
          · exact Or.inl rfl
          · next idle =>
              rw [not_or] at idle
              exact Or.inr ⟨identity, weapon, definition, named, isWeapon, idle.1,
                Bool.eq_false_iff.mpr idle.2, found, rfl⟩
  · exact Or.inl rfl

/-- An idle weapon that the table knows starts its warmup. -/
theorem start_warmup_starts {row : Components}
    {identity : NetworkIdentityComponent} {weapon : WeaponStateComponent}
    {definition : WeaponDefinition} (named : row.identity = some identity)
    (isWeapon : row.weapon = some weapon) (armed : weapon.type ≠ .none)
    (idle : weapon.warming = false)
    (found : findWeaponDefinition config.weapons weapon.type = some definition) :
    (startWarmup config timeMs row).1 =
      { row with weapon := some (startedWeapon timeMs definition weapon) } := by
  unfold startWarmup
  rw [isWeapon, named]
  dsimp only
  rw [found]
  dsimp only
  rw [if_neg (by simp [armed, idle])]
  rfl

/-- An input does nothing to a defeated player; otherwise the row takes its
intent, and a pressed button may start a warmup. -/
theorem apply_input_cases (packet : ClientInputPacket) (row : Components) :
    row.defeated = true ∧ applyInputToEntity config timeMs packet row = (row, []) ∨
    row.defeated = false ∧
      (applyInputToEntity config timeMs packet row = (takeIntent packet.input row, []) ∨
        packet.input.fire = true ∧ ∃ identity weapon definition,
          row.identity = some identity ∧ row.weapon = some weapon ∧ weapon.type ≠ .none ∧
          weapon.warming = false ∧
          findWeaponDefinition config.weapons weapon.type = some definition ∧
          applyInputToEntity config timeMs packet row =
            ({ takeIntent packet.input row with
                weapon := some (startedWeapon timeMs definition weapon) },
              [.weaponWarmupStarted (startedEvent timeMs identity.id definition weapon)])) := by
  unfold applyInputToEntity
  cases living : row.defeated with
  | true => exact Or.inl ⟨rfl, rfl⟩
  | false =>
      right
      rw [if_neg Bool.false_ne_true]
      split
      · next fire =>
          rcases start_warmup_cases config timeMs (takeIntent packet.input row) with
            rests | ⟨identity, weapon, definition, named, isWeapon, armed, idle, found, started⟩
          · exact ⟨rfl, Or.inl rests⟩
          · exact ⟨rfl, Or.inr ⟨fire, identity, weapon, definition, named, isWeapon, armed, idle,
              found, started⟩⟩
      · exact ⟨rfl, Or.inl rfl⟩

theorem apply_input_defeated (packet : ClientInputPacket) (row : Components) :
    (applyInputToEntity config timeMs packet row).1.defeated = row.defeated := by
  obtain ⟨intent, aim, weapon, applied⟩ := apply_input_changes config timeMs packet row
  rw [applied]
  rfl

/-- A defeated player takes no input. -/
theorem defeated_apply_inputs (packets : List ClientInputPacket) {row : Components}
    (defeated : row.defeated = true) : applyInputs config timeMs packets row = row := by
  induction packets with
  | nil => rfl
  | cons packet rest ih =>
      rcases apply_input_cases config timeMs packet row with ⟨_, same⟩ | ⟨living, _⟩
      · unfold applyInputs at ih ⊢
        rw [List.foldl_cons, same]
        exact ih
      · rw [defeated] at living
        cases living

/-- What inputs make of a weapon: they leave it, or one of them starts a warmup. -/
inductive Warmed (packets : List ClientInputPacket) (weapon : WeaponStateComponent) :
    WeaponStateComponent → Prop
  | left : Warmed packets weapon weapon
  | started (definition : WeaponDefinition) (packet : ClientInputPacket)
      (idle : weapon.warming = false) (given : packet ∈ packets)
      (fire : packet.input.fire = true)
      (found : findWeaponDefinition config.weapons weapon.type = some definition) :
      Warmed packets weapon (startedWeapon timeMs definition weapon)

theorem Warmed.more {packets : List ClientInputPacket} {weapon later : WeaponStateComponent}
    (warmed : Warmed config timeMs packets weapon later) (packet : ClientInputPacket) :
    Warmed config timeMs (packet :: packets) weapon later := by
  cases warmed with
  | left => exact .left
  | started definition other idle given fire found =>
      exact .started definition other idle (List.mem_cons_of_mem packet given) fire found

theorem apply_inputs_weapon (packets : List ClientInputPacket) {row : Components}
    {weapon : WeaponStateComponent} (isWeapon : row.weapon = some weapon) :
    ∃ later, (applyInputs config timeMs packets row).weapon = some later ∧
      Warmed config timeMs packets weapon later := by
  induction packets generalizing row weapon with
  | nil => exact ⟨weapon, isWeapon, .left⟩
  | cons packet rest ih =>
      have skips (next : Components) (same : next.weapon = some weapon) :
          ∃ later, (applyInputs config timeMs rest next).weapon = some later ∧
            Warmed config timeMs (packet :: rest) weapon later := by
        obtain ⟨later, isLater, warmed⟩ := ih same
        exact ⟨later, isLater, warmed.more config timeMs packet⟩
      unfold applyInputs at skips ih ⊢
      rw [List.foldl_cons]
      rcases apply_input_cases config timeMs packet row with
        ⟨_, same⟩ | ⟨_, taken | ⟨fire, identity, own, definition, _, isOwn, _, idle, found, started⟩⟩
      · rw [same]
        exact skips row isWeapon
      · rw [taken]
        exact skips (takeIntent packet.input row) isWeapon
      · rw [isWeapon] at isOwn
        cases isOwn
        -- A weapon that is warming is left alone by the rest.
        rw [started]
        obtain ⟨later, isLater, warmed⟩ :=
          @ih { takeIntent packet.input row with
                weapon := some (startedWeapon timeMs definition weapon) } _ rfl
        refine ⟨later, isLater, ?_⟩
        cases warmed with
        | left => exact .started definition packet idle List.mem_cons_self fire found
        | started _ _ busy => cases busy

theorem apply_inputs_unarmed (packets : List ClientInputPacket) {row : Components}
    (unarmed : row.weapon = none) : (applyInputs config timeMs packets row).weapon = none := by
  apply Runs.run_invariant (fun row packet => (applyInputToEntity config timeMs packet row).1)
    fun row => row.weapon = none
  · intro row packet unarmed
    rcases apply_input_cases config timeMs packet row with
      ⟨_, same⟩ | ⟨_, taken | ⟨_, _, weapon, _, _, isWeapon, _⟩⟩
    · rw [same]
      exact unarmed
    · rw [taken]
      exact unarmed
    · rw [unarmed] at isWeapon
      cases isWeapon
  · exact unarmed

/-- Moving touches nothing of the weapon. -/
theorem moved_row_of_applied (sim : GameSimulation) (entity : Entity) (row : Components) :
    ∃ transform velocity, movedRow sim entity row =
      { applyInputs sim.config sim.timeMs (inputsFor sim entity) row with
        transform := transform, velocity := velocity, inputIntent := none } := by
  unfold movedRow
  dsimp only
  split
  · obtain ⟨transform, velocity, integrated, _⟩ := integrate_changes sim.config
      (applyInputs sim.config sim.timeMs (inputsFor sim entity) row)
    rw [integrated]
    exact ⟨transform, velocity, rfl⟩
  · exact ⟨_, _, rfl⟩

/-- The weapon of a moved row is what the inputs of the tick make of it. -/
theorem moved_row_warmed (sim : GameSimulation) (entity : Entity) {row : Components}
    {weapon : WeaponStateComponent} (isWeapon : (movedRow sim entity row).weapon = some weapon) :
    ∃ before, row.weapon = some before ∧
      Warmed sim.config sim.timeMs (inputsFor sim entity) before weapon := by
  obtain ⟨_, _, moved⟩ := moved_row_of_applied sim entity row
  rw [moved] at isWeapon
  cases isBefore : row.weapon with
  | none =>
      have unarmed :=
        apply_inputs_unarmed sim.config sim.timeMs (inputsFor sim entity) isBefore
      exact absurd (unarmed.symm.trans isWeapon) (by simp)
  | some before =>
      obtain ⟨later, isLater, warmed⟩ :=
        apply_inputs_weapon sim.config sim.timeMs (inputsFor sim entity) isBefore
      cases isLater.symm.trans isWeapon
      exact ⟨before, rfl, warmed⟩

theorem moved_row_defeated (sim : GameSimulation) (entity : Entity) (row : Components) :
    (movedRow sim entity row).defeated = row.defeated := by
  obtain ⟨_, _, _, _, moved, _⟩ := moved_row_changes sim entity row
  rw [moved]
  rfl

theorem moved_row_identity (sim : GameSimulation) (entity : Entity) (row : Components) :
    (movedRow sim entity row).identity = row.identity := by
  obtain ⟨_, _, _, _, moved, _⟩ := moved_row_changes sim entity row
  rw [moved]

/-! Ending a warmup. -/

/-- The weapon of a row after the warmup stage. -/
def endedWeapon (row : Components) (weapon : WeaponStateComponent) : WeaponStateComponent :=
  if row.defeated ∨ warmupComplete timeMs row weapon then { weapon with warming := false }
  else weapon

def firedEvents (row : Components) (id : NetworkEntityId) (weapon : WeaponStateComponent) :
    EventList :=
  if warmupComplete timeMs row weapon then
    match config.mode, findWeaponDefinition config.weapons weapon.type with
    | .serverAuthoritative, some _ =>
        [.weaponFired { entityId := id, firedAtMs := timeMs, weaponType := weapon.type }]
    | _, _ => []
  else []

/-- A defeated player drops its warmup, a completed one ends and fires. -/
theorem finish_warmup_cases {row : Components} {identity : NetworkIdentityComponent}
    {weapon : WeaponStateComponent} (named : row.identity = some identity)
    (isWeapon : row.weapon = some weapon) :
    finishWarmup config timeMs row =
      ({ row with weapon := some (endedWeapon timeMs row weapon) },
        firedEvents config timeMs row identity.id weapon) := by
  unfold finishWarmup firedEvents endedWeapon
  rw [named, isWeapon]
  dsimp only
  cases living : row.defeated with
  | true =>
      have notDue : warmupComplete timeMs row weapon = false := by
        unfold warmupComplete
        rw [living]
        rfl
      simp [notDue]
  | false =>
      cases due : warmupComplete timeMs row weapon with
      | true =>
          rewrite [if_neg Bool.false_ne_true, if_pos rfl, if_pos rfl, if_pos (Or.inr rfl)]
          rfl
      | false =>
          rw [if_neg Bool.false_ne_true, if_neg Bool.false_ne_true]
          simp [← named, ← isWeapon]

/-- A row requests a projectile for a completed warmup of a weapon that spawns
one: from its own place and aim, in its own name. -/
theorem request_of_row {config : SimulationConfig} {timeMs : TimestampMs} {row : Components}
    {request : ProjectileRequest} (requested : projectileRequest config timeMs row = some request) :
    config.mode = .serverAuthoritative ∧ row.identity = some { id := request.ownerId } ∧
      row.transform = some request.transform ∧ row.aim = some request.aim ∧
      request.weapon.serverSpawnedProjectile = true ∧
      ∃ weapon, row.weapon = some weapon ∧ warmupComplete timeMs row weapon = true ∧
        findWeaponDefinition config.weapons weapon.type = some request.weapon := by
  unfold projectileRequest at requested
  split at requested
  · next identity transform aim weapon server named isTransform isAim isWeapon =>
      split at requested
      · next complete =>
          split at requested
          · next definition found =>
              split at requested
              · next spawns =>
                  cases requested
                  exact ⟨server, named, isTransform, isAim, spawns, weapon, isWeapon, complete,
                    found⟩
              · cases requested
          · cases requested
      · cases requested
  · cases requested

/-- A completed warmup of a weapon that spawns projectiles requests one. -/
theorem request_made {config : SimulationConfig} {timeMs : TimestampMs} {row : Components}
    {identity : NetworkIdentityComponent} {transform : TransformComponent} {aim : AimComponent}
    {weapon : WeaponStateComponent} {definition : WeaponDefinition}
    (server : config.mode = .serverAuthoritative) (named : row.identity = some identity)
    (placed : row.transform = some transform) (aims : row.aim = some aim)
    (isWeapon : row.weapon = some weapon) (complete : warmupComplete timeMs row weapon = true)
    (found : findWeaponDefinition config.weapons weapon.type = some definition)
    (spawns : definition.serverSpawnedProjectile = true) :
    projectileRequest config timeMs row =
      some { ownerId := identity.id, transform := transform, aim := aim, weapon := definition } := by
  unfold projectileRequest
  rw [server, named, placed, aims, isWeapon]
  dsimp only
  rw [if_pos complete, found]
  dsimp only
  rw [if_pos spawns]

/-! A warmup that is still running after a tick. -/

/-- The stages after the warmups leave a weapon to its player. -/
structure SameArms (row later : Components) : Prop where
  identity : later.identity = row.identity
  weapon : later.weapon = row.weapon
  player : later.player.isSome = row.player.isSome
  living : later.defeated = false → row.defeated = false

theorem SameArms.refl (row : Components) : SameArms row row := ⟨rfl, rfl, rfl, id⟩

theorem SameArms.trans {first second third : Components} (left : SameArms first second)
    (right : SameArms second third) : SameArms first third :=
  ⟨right.identity.trans left.identity, right.weapon.trans left.weapon,
   right.player.trans left.player, fun alive => left.living (right.living alive)⟩

theorem fly_same_arms (row : Components) : SameArms row (fly config row) := by
  obtain ⟨transform, flown, _⟩ := fly_changes config row
  rw [flown]
  exact ⟨rfl, rfl, rfl, id⟩

theorem damage_same_arms (projectileId : NetworkEntityId) (projectile : ProjectileComponent)
    (row : Components) :
    SameArms row (damagePlayer config timeMs projectileId projectile row).1 := by
  unfold damagePlayer
  split
  · next identity player _ isPlayer =>
      dsimp only
      split
      · refine ⟨rfl, rfl, by rw [isPlayer]; rfl, fun alive => ?_⟩
        simp [Components.defeated] at alive
      · refine ⟨rfl, rfl, by rw [isPlayer]; rfl, fun alive => ?_⟩
        unfold Components.defeated at alive ⊢
        rw [isPlayer]
        exact alive
  · exact SameArms.refl row

/-- A player after the projectile stage was there before it, with its weapon. -/
theorem process_projectiles_same_arms (order : LoopOrder) (sim : GameSimulation)
    {entity : Entity} {later : Components}
    (present : (processProjectiles order sim).registry.get? entity = some later) :
    ∃ row, sim.registry.get? entity = some row ∧ SameArms row later := by
  have looped := projectile_loop_rows SameArms.refl (fun _ _ _ => SameArms.trans) sim.config
    (fun row _ => fly_same_arms sim.config row) (damage_same_arms sim.config)
    (sim.registry.view order .projectileTargets inTargetView)
    (sim.registry.view order .projectiles inProjectileView) (sim, []) rfl
  unfold processProjectiles at present
  dsimp only at present
  rcases destroy_all_cases _ _ entity with gone | same
  · rw [gone] at present
    cases present
  · rw [same] at present
    exact looped.backward present

/-- The row of a player after the warmup stage. -/
theorem process_warmups_player (order : LoopOrder) (sim : GameSimulation) {entity : Entity}
    {later : Components}
    (present : (processWeaponWarmups order sim).registry.get? entity = some later)
    (isPlayer : later.player.isSome) :
    ∃ row, sim.registry.get? entity = some row ∧
      later = if inWarmupView row then (finishWarmup sim.config sim.timeMs row).1 else row := by
  have created : ∀ (requests : List ProjectileRequest) (start : GameSimulation),
      (requests.foldl createProjectile start).registry.get? entity = some later →
      start.registry.get? entity = some later := by
    intro requests
    induction requests with
    | nil => exact fun _ => id
    | cons request rest ih =>
        intro start found
        rcases creates_cases (create_projectile_creates start request) (ih _ found) with
          ⟨_, isRow⟩ | old
        · rw [isRow] at isPlayer
          cases isPlayer
        · exact old
  have fired := created _ _ present
  rw [for_each_row] at fired
  obtain ⟨row, found, isLater⟩ := Option.map_eq_some_iff.mp fired
  exact ⟨row, found, isLater.symm⟩

/-- The warmup stage ends warmups and starts none. -/
theorem finish_warmup_warming {row : Components} {weapon : WeaponStateComponent}
    (isWeapon : (finishWarmup config timeMs row).1.weapon = some weapon)
    (warming : weapon.warming = true) : row.weapon = some weapon := by
  cases named : row.identity with
  | none =>
      unfold finishWarmup at isWeapon
      rw [named] at isWeapon
      exact isWeapon
  | some identity =>
      cases isOwn : row.weapon with
      | none =>
          unfold finishWarmup at isWeapon
          rw [named, isOwn] at isWeapon
          exact isOwn.symm.trans isWeapon
      | some own =>
          rw [finish_warmup_cases config timeMs named isOwn] at isWeapon
          cases isWeapon
          unfold endedWeapon at warming ⊢
          split at warming
          · cases warming
          · next runs => rw [if_neg runs]

/-- A player that is born again has an idle weapon. -/
theorem respawn_warming {row : Components} {weapon : WeaponStateComponent}
    (isWeapon : (respawnPlayer config timeMs row).1.weapon = some weapon)
    (warming : weapon.warming = true) : respawnPlayer config timeMs row = (row, []) := by
  rcases respawn_cases config timeMs row with ⟨rests, _⟩ | ⟨_, _, _, _, _, _, reborn⟩
  · exact rests
  · rw [reborn] at isWeapon
    obtain ⟨old, _, isIdle⟩ := Option.map_eq_some_iff.mp isWeapon
    rw [← isIdle] at warming
    cases warming

/-- The warmup that is left to a living row is not complete. -/
theorem finish_warmup_runs {row : Components} {weapon : WeaponStateComponent}
    (named : row.identity.isSome) (alive : row.defeated = false)
    (isWeapon : (finishWarmup config timeMs row).1.weapon = some weapon)
    (warming : weapon.warming = true) : timeMs < weapon.warmupCompletesAtMs := by
  obtain ⟨identity, isIdentity⟩ := Option.isSome_iff_exists.mp named
  have isOwn := finish_warmup_warming config timeMs isWeapon warming
  rw [finish_warmup_cases config timeMs isIdentity isOwn] at isWeapon
  have same : endedWeapon timeMs row weapon = weapon := Option.some.inj isWeapon
  unfold endedWeapon at same
  split at same
  · rw [← same] at warming
    cases warming
  · next runs =>
      rw [not_or] at runs
      have notDue : ¬ weapon.warmupCompletesAtMs ≤ timeMs := by
        simpa [warmupComplete, alive, warming] using runs.2
      exact UInt64.not_le.mp notDue

/-- A player that lives after a tick with its warmup running had it when the
warmups began, and it is not complete. -/
theorem tick_warming_moved (order : LoopOrder) (sim : GameSimulation) {entity : Entity}
    {later : Components} {weapon : WeaponStateComponent}
    (present : (tickFixed order sim).registry.get? entity = some later)
    (isPlayer : later.player.isSome) (alive : later.defeated = false)
    (isWeapon : later.weapon = some weapon) (warming : weapon.warming = true) :
    ∃ moved, (processInputs order (advanceClock sim)).registry.get? entity = some moved ∧
      moved.defeated = false ∧ moved.weapon = some weapon ∧
      (inWarmupView moved = true → (advanceClock sim).timeMs < weapon.warmupCompletesAtMs) := by
  unfold tickFixed at present
  rw [process_respawns_row] at present
  obtain ⟨flown, isFlown, isLater⟩ := Option.map_eq_some_iff.mp present
  -- A respawn would have ended the warmup.
  have unborn : flown = later := by
    split at isLater
    · rw [← isLater] at isWeapon
      rw [← isLater, respawn_warming _ _ isWeapon warming]
    · exact isLater
  subst unborn
  obtain ⟨warmed, isWarmed, arms⟩ := process_projectiles_same_arms order _ isFlown
  obtain ⟨moved, isMoved, isEnded⟩ :=
    process_warmups_player order _ isWarmed (arms.player ▸ isPlayer)
  refine ⟨moved, isMoved, ?_⟩
  have stillAlive := arms.living alive
  rw [arms.weapon] at isWeapon
  rw [isEnded] at isWeapon stillAlive
  split at isWeapon
  · next viewed =>
      obtain ⟨_, changed⟩ := finish_warmup_changes
        (processInputs order (advanceClock sim)).config
        (processInputs order (advanceClock sim)).timeMs moved
      rw [if_pos viewed, changed] at stillAlive
      have named : moved.identity.isSome := by
        simp only [inWarmupView, Bool.and_eq_true] at viewed
        exact viewed.1.1.1
      refine ⟨stillAlive, finish_warmup_warming _ _ isWeapon warming, fun _ => ?_⟩
      rw [← (process_inputs_tables order (advanceClock sim)).timeMs]
      exact finish_warmup_runs _ _ named stillAlive isWeapon warming
  · next unseen =>
      rw [if_neg unseen] at stillAlive
      exact ⟨stillAlive, isWeapon, fun viewed => absurd viewed unseen⟩

/-- A player that lives after a tick, with its warmup running, lived before it;
the warmup was running then or an input of the tick started it. -/
theorem tick_warming (order : LoopOrder) (sim : GameSimulation) {entity : Entity}
    {later : Components} {weapon : WeaponStateComponent}
    (present : (tickFixed order sim).registry.get? entity = some later)
    (isPlayer : later.player.isSome) (alive : later.defeated = false)
    (isWeapon : later.weapon = some weapon) (warming : weapon.warming = true) :
    ∃ row before, sim.registry.get? entity = some row ∧ row.defeated = false ∧
      row.weapon = some before ∧
      Warmed (advanceClock sim).config (advanceClock sim).timeMs
        (inputsFor (advanceClock sim) entity) before weapon := by
  obtain ⟨moved, isMoved, living, started, _⟩ :=
    tick_warming_moved order sim present isPlayer alive isWeapon warming
  rw [process_inputs_row] at isMoved
  obtain ⟨row, isRow, isMovedRow⟩ := Option.map_eq_some_iff.mp isMoved
  rw [← isMovedRow] at started living
  rw [moved_row_defeated] at living
  obtain ⟨before, isBefore, warmedUp⟩ := moved_row_warmed (advanceClock sim) entity started
  exact ⟨row, before, isRow, living, isBefore, warmedUp⟩

/-! The shots of a tick. -/

/-- A row fires when its warmup is complete. -/
theorem finish_warmup_fired {row : Components} {fired : WeaponFired}
    (told : .weaponFired fired ∈ (finishWarmup config timeMs row).2) :
    ∃ weapon, row.identity = some { id := fired.entityId } ∧ row.weapon = some weapon ∧
      warmupComplete timeMs row weapon = true ∧ fired.firedAtMs = timeMs ∧
      fired.weaponType = weapon.type := by
  cases named : row.identity with
  | none =>
      unfold finishWarmup at told
      rw [named] at told
      cases told
  | some identity =>
      cases isWeapon : row.weapon with
      | none =>
          unfold finishWarmup at told
          rw [named, isWeapon] at told
          cases told
      | some weapon =>
          rw [finish_warmup_cases config timeMs named isWeapon] at told
          dsimp only at told
          unfold firedEvents at told
          split at told
          · next complete =>
              split at told
              · have isFired := List.mem_singleton.mp told
                cases isFired
                exact ⟨weapon, rfl, rfl, complete, rfl, rfl⟩
              · cases told
          · cases told

/-- The shots that the warmup stage tells of are those of its rows. -/
theorem process_warmups_fired (order : LoopOrder) (sim : GameSimulation) :
    ∃ added, Queued sim (processWeaponWarmups order sim) added ∧
      ∀ fired, .weaponFired fired ∈ added → ∃ entity row,
        sim.registry.get? entity = some row ∧ inWarmupView row = true ∧
        .weaponFired fired ∈ (finishWarmup sim.config sim.timeMs row).2 := by
  have loop := for_each_queued (finishWarmup sim.config sim.timeMs) order .weaponWarmups
    inWarmupView sim
  have spawns : ∀ (requests : List ProjectileRequest) (start : GameSimulation),
      QueuesOnly (fun event => ∀ fired, event ≠ .weaponFired fired) start
        (requests.foldl createProjectile start) := by
    intro requests start
    refine Runs.run_relates createProjectile _ QueuesOnly.refl QueuesOnly.trans ?_ start requests
    intro before request
    refine ⟨_, rfl, ?_⟩
    intro event member fired
    rw [List.mem_singleton.mp member]
    exact DomainEvent.noConfusion
  obtain ⟨created, queued, none⟩ := spawns
    ((sim.registry.view order .weaponWarmups inWarmupView).filterMap fun entity =>
      (sim.registry.get? entity).bind (projectileRequest sim.config sim.timeMs))
    (sim.forEachEntity order .weaponWarmups inWarmupView (finishWarmup sim.config sim.timeMs))
  refine ⟨_, loop.trans queued, ?_⟩
  intro fired member
  rcases List.mem_append.mp member with ofRow | ofProjectile
  · obtain ⟨entity, viewed, told⟩ := List.mem_flatMap.mp ofRow
    obtain ⟨row, present, passes⟩ := (Registry.mem_view _ order _ _ entity).mp viewed
    rw [present] at told
    exact ⟨entity, row, present, passes, told⟩
  · exact absurd rfl (none _ ofProjectile fired)

/-- A shot in a tick is the end of a warmup of a living row, which was running
when the tick began or was started by an input of the tick. -/
theorem tick_fired (order : LoopOrder) (sim : GameSimulation) :
    ∃ added, Queued sim (tickFixed order sim) added ∧
      ∀ fired, .weaponFired fired ∈ added → ∃ entity row before weapon,
        sim.registry.get? entity = some row ∧ row.defeated = false ∧
        row.identity = some { id := fired.entityId } ∧ row.weapon = some before ∧
        Warmed (advanceClock sim).config (advanceClock sim).timeMs
          (inputsFor (advanceClock sim) entity) before weapon ∧
        weapon.warming = true ∧ weapon.warmupCompletesAtMs ≤ (advanceClock sim).timeMs ∧
        fired.firedAtMs = (advanceClock sim).timeMs := by
  obtain ⟨first, queuedFirst, ofInputs⟩ := process_inputs_queues order (advanceClock sim)
  obtain ⟨second, queuedSecond, ofShots⟩ :=
    process_warmups_fired order (processInputs order (advanceClock sim))
  obtain ⟨third, queuedThird, ofHits⟩ := process_projectiles_queues order
    (processWeaponWarmups order (processInputs order (advanceClock sim)))
  obtain ⟨fourth, queuedFourth, ofRespawns⟩ := process_respawns_queues order
    (processProjectiles order (processWeaponWarmups order
      (processInputs order (advanceClock sim))))
  have tables := process_inputs_tables order (advanceClock sim)
  have whole : Queued sim (tickFixed order sim) (((first ++ second) ++ third) ++ fourth) :=
    ((queuedFirst.trans queuedSecond).trans queuedThird).trans queuedFourth
  refine ⟨_, whole, ?_⟩
  intro fired member
  -- Only the warmup stage tells of shots.
  have inSecond : .weaponFired fired ∈ second := by
    simp only [List.mem_append] at member
    rcases member with ((inFirst | inSecond) | inThird) | inFourth
    · rcases ofInputs _ inFirst with ⟨_, other⟩ | ⟨_, other⟩ <;> cases other
    · exact inSecond
    · rcases ofHits _ inThird with ⟨_, other⟩ | ⟨_, other⟩ | ⟨_, other⟩ <;> cases other
    · obtain ⟨_, other⟩ := ofRespawns _ inFourth
      cases other
  obtain ⟨entity, moved, isMoved, _, told⟩ := ofShots fired inSecond
  obtain ⟨weapon, named, isWeapon, complete, firedAt, _⟩ := finish_warmup_fired _ _ told
  rw [tables.timeMs] at complete firedAt
  rw [process_inputs_row] at isMoved
  obtain ⟨row, present, isRow⟩ := Option.map_eq_some_iff.mp isMoved
  rw [← isRow] at named isWeapon complete
  rw [moved_row_identity] at named
  obtain ⟨before, isBefore, warmed⟩ := moved_row_warmed (advanceClock sim) entity isWeapon
  have facts : row.defeated = false ∧ weapon.warming = true ∧
      weapon.warmupCompletesAtMs ≤ (advanceClock sim).timeMs := by
    simpa [warmupComplete, moved_row_defeated, and_assoc] using complete
  exact ⟨entity, row, before, weapon, present, facts.1, named, isBefore, warmed, facts.2.1,
    facts.2.2, firedAt⟩

end Brawololo.WeaponStages
