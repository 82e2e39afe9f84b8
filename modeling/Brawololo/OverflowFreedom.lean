import Brawololo.MovementBounds

/-!
No signed overflow under the default configuration: on rows within the bounds
every trapping function yields what the wrapping one does, so the trapping run
of any calls goes through and ends in the state of the wrapping run.
-/

namespace Brawololo.OverflowFreedom

open GameTypes EntityStore Simulation Simulation.GameSimulation SimulationStages EntityIdentity
open TrappingArithmetic RowRules MovementBounds WeaponStages

/-! Rows. -/

theorem integrate_safe {row : Components} (bounds : InBounds row) (isPlayer : row.player.isSome) :
    TrappingSimulation.integrateMovement {} row = some (integrateMovement {} row) := by
  obtain ⟨_, ⟨place, isPlace, onMap⟩, ⟨velocity, isVelocity, _, limited⟩, _⟩ := bounds
  obtain ⟨safe, steered⟩ := steer_yields row.inputIntent velocity (limited isPlayer)
  unfold TrappingSimulation.integrateMovement integrateMovement
  rw [isPlace, isVelocity]
  cases row.identity with
  | none => rfl
  | some identity =>
      dsimp only
      split
      · rfl
      · rw [safe_bind safe, safe_bind (travel_yields _ place (limited_widest steered) onMap).1,
          safe_bind (clamp_to_map_yields _).1]

theorem respawn_safe (timeMs : TimestampMs) (row : Components) :
    TrappingSimulation.respawnPlayer {} timeMs row = some (respawnPlayer {} timeMs row) := by
  unfold TrappingSimulation.respawnPlayer respawnPlayer
  cases row.identity with
  | none => rfl
  | some identity =>
      cases row.player with
      | none => rfl
      | some player =>
          dsimp only
          split
          · rfl
          · rw [safe_bind (spawn_yields _).1]

theorem projectile_row_safe (timeMs : TimestampMs) (id : NetworkEntityId)
    (request : ProjectileRequest) (type : WeaponType)
    (isDefault : request.weapon = defaultWeaponDefinition type) :
    TrappingSimulation.projectileRow timeMs id request =
      some (projectileRow timeMs id request) := by
  have x := (projectile_velocity_yields type request.aim.x).safe
  have y := (projectile_velocity_yields type request.aim.y).safe
  rw [← isDefault] at x y
  unfold TrappingSimulation.projectileRow
  rw [safe_bind x, safe_bind y]
  rfl

theorem fly_safe {row : Components} (bounds : InBounds row) :
    TrappingSimulation.fly {} row = some (fly {} row) := by
  obtain ⟨_, ⟨place, isPlace, onMap⟩, ⟨velocity, isVelocity, wide, _⟩, _⟩ := bounds
  unfold TrappingSimulation.fly fly
  rw [isPlace, isVelocity]
  dsimp only
  rw [safe_bind (travel_yields velocity place wide onMap).1]

theorem gone_safe (timeMs : TimestampMs) (projectile : ProjectileComponent)
    (transform : TransformComponent) :
    TrappingSimulation.projectileGone {} timeMs projectile transform =
      some (projectileGone {} timeMs projectile transform) := rfl

theorem close_enough_safe {left right : TransformComponent} (leftOn : OnMap {} left)
    (rightOn : OnMap {} right) :
    TrappingSimulation.closeEnoughForHit left right = some (closeEnoughForHit left right) := by
  obtain ⟨⟨_, _⟩, _, _⟩ := (on_map_iff left).mp leftOn
  obtain ⟨⟨_, _⟩, _, _⟩ := (on_map_iff right).mp rightOn
  -- A difference of two places is below the extent of the map, and its square fits.
  have axis (first second : Fixed) (firstOn : 0 ≤ first.toInt ∧ first.toInt < 10240000)
      (secondOn : 0 ≤ second.toInt ∧ second.toInt < 10240000) :
      sub64 first.toInt64 second.toInt64 = some (first.toInt64 - second.toInt64) ∧
        ∃ distance : Int, (first.toInt64 - second.toInt64).toInt = distance ∧
          -10240000 < distance ∧ distance < 10240000 := by
    have difference := @sub64_yields first.toInt64 second.toInt64 (by
      rw [Int32.toInt_toInt64, Int32.toInt_toInt64]
      exact ⟨by omega, by omega⟩)
    refine ⟨difference.safe, _, difference.exact, ?_⟩
    rw [Int32.toInt_toInt64, Int32.toInt_toInt64]
    exact ⟨by omega, by omega⟩
  have square (distance : Int64) (value : Int) (isValue : distance.toInt = value)
      (near : -10240000 < value ∧ value < 10240000) :
      Yields64 (mul64 distance distance) (distance * distance) (value * value) ∧
        0 ≤ value * value ∧ value * value < 104857600000000 := by
    have least : 0 ≤ value * value := mul_self_nonneg value
    have most : value * value < 104857600000000 := by nlinarith
    have product := @mul64_yields distance distance (by rw [isValue]; exact ⟨by omega, by omega⟩)
    rw [isValue] at product
    exact ⟨product, least, most⟩
  obtain ⟨dxSafe, dx, isDx, dxNear⟩ := axis left.x right.x ⟨by assumption, by assumption⟩
    ⟨by assumption, by assumption⟩
  obtain ⟨dySafe, dy, isDy, dyNear⟩ := axis left.y right.y ⟨by assumption, by assumption⟩
    ⟨by assumption, by assumption⟩
  obtain ⟨xSquare, xLeast, xMost⟩ := square _ dx isDx dxNear
  obtain ⟨ySquare, yLeast, yMost⟩ := square _ dy isDy dyNear
  have sum := @add64_yields ((left.x.toInt64 - right.x.toInt64) * (left.x.toInt64 - right.x.toInt64))
    ((left.y.toInt64 - right.y.toInt64) * (left.y.toInt64 - right.y.toInt64))
    (by rw [xSquare.exact, ySquare.exact]; exact ⟨by omega, by omega⟩)
  have bound : mul64 kHitRadius.toInt64 kHitRadius.toInt64 =
      some (kHitRadius.toInt64 * kHitRadius.toInt64) := by decide
  unfold TrappingSimulation.closeEnoughForHit
  rw [safe_bind dxSafe, safe_bind dySafe, safe_bind xSquare.safe, safe_bind ySquare.safe,
    safe_bind sum.safe, safe_bind bound]
  rfl

theorem hits_safe (projectile : ProjectileComponent) {transform : TransformComponent}
    {row : Components} (onMap : OnMap {} transform) (bounds : InBounds row) :
    TrappingSimulation.hits projectile transform row = some (hits projectile transform row) := by
  obtain ⟨_, ⟨place, isPlace, placeOn⟩, _, _⟩ := bounds
  have close := close_enough_safe onMap placeOn
  unfold TrappingSimulation.hits hits
  rw [isPlace]
  cases row.identity with
  | none => rfl
  | some identity =>
      cases row.player with
      | none => rfl
      | some player =>
          dsimp only
          split
          · next excluded =>
              rcases excluded with own | defeated
              · simp [own]
              · simp [defeated]
          · next eligible =>
              rw [not_or] at eligible
              rw [close]
              simp [eligible.1, eligible.2]

theorem damage_safe (timeMs : TimestampMs) (projectileId : NetworkEntityId)
    (projectile : ProjectileComponent) {row : Components} (bounds : InBounds row) :
    TrappingSimulation.damagePlayer {} timeMs projectileId projectile row =
      some (damagePlayer {} timeMs projectileId projectile row) := by
  obtain ⟨harmless, weak⟩ := damage_bounds projectile
  unfold TrappingSimulation.damagePlayer damagePlayer
  cases row.identity with
  | none => rfl
  | some identity =>
      cases isPlayer : row.player with
      | none => rfl
      | some player =>
          obtain ⟨⟨least, most⟩, _⟩ := bounds.healthy player isPlayer
          have left := sub32_yields player.health (projectileDamage {} projectile)
            ⟨by omega, by omega⟩
          dsimp only
          rw [safe_bind left.safe]
          split
          · rfl
          · rfl

/-! Loops. -/

/-- A change of one row can be read off that row. -/
theorem modify_const (registry : Registry Components) (entity : Entity) (row : Components)
    (change : Components → Components) (present : registry.get? entity = some row) :
    (registry.modify entity fun _ => change row) = registry.modify entity change := by
  refine Registry.rows_ext rfl fun other => ?_
  rw [Registry.get?_modify, Registry.get?_modify]
  by_cases same : other = entity
  · subst same
    rw [if_pos rfl, if_pos rfl, present]
    rfl
  · rw [if_neg same, if_neg same]

theorem update_entity_safe (trapping : Components → Option (Components × EventList))
    (update : Components → Components × EventList) (sim : GameSimulation) (entity : Entity)
    (safe : ∀ row, sim.registry.get? entity = some row → trapping row = some (update row)) :
    TrappingSimulation.updateEntity sim trapping entity = some (sim.updateEntity update entity) := by
  unfold TrappingSimulation.updateEntity GameSimulation.updateEntity
  cases present : sim.registry.get? entity with
  | none => rfl
  | some row =>
      dsimp only
      rw [safe_bind (safe row present),
        modify_const sim.registry entity row (fun row => (update row).1) present]

/-- A loop over a view goes through where its update does on the fitting rows of
the view, which it leaves in the view. -/
theorem for_each_safe (fits : Components → Prop) (order : LoopOrder) (site : LoopSite)
    (holds : Components → Bool) (trapping : Components → Option (Components × EventList))
    (update : Components → Components × EventList) (sim : GameSimulation)
    (safe : ∀ row, fits row → holds row → trapping row = some (update row))
    (keeps : ∀ row, fits row → holds row → fits (update row).1)
    (stays : ∀ row, holds row → holds (update row).1) (all : EveryRow fits sim) :
    TrappingSimulation.forEachEntity sim order site holds trapping =
      some (sim.forEachEntity order site holds update) := by
  let viewed (sim' : GameSimulation) : Prop := ∀ entity ∈ sim.registry.view order site holds,
    ∀ row, sim'.registry.get? entity = some row → holds row
  refine foldlM_eq_some (fun sim' => EveryRow fits sim' ∧ viewed sim') _ _ _ ?_ ?_ sim ⟨all, ?_⟩
  · rintro entity member sim' ⟨all', viewed'⟩
    exact update_entity_safe trapping update sim' entity fun row present =>
      safe row (all' entity row present) (viewed' entity member row present)
  · rintro entity member sim' ⟨all', viewed'⟩
    refine ⟨update_entity_every_row update sim' entity (fun row present fitting =>
      keeps row fitting (viewed' entity member row present)) all', ?_⟩
    intro other isOther later present
    rw [update_entity_row] at present
    split at present
    · next same =>
        subst same
        obtain ⟨row, found, isLater⟩ := Option.map_eq_some_iff.mp present
        subst isLater
        exact stays row (viewed' other isOther row found)
    · exact viewed' other isOther later present
  · intro entity member row present
    obtain ⟨found, isRow, passes⟩ := (sim.registry.mem_view order site holds entity).mp member
    rw [present] at isRow
    cases isRow
    exact passes

theorem process_inputs_safe (order : LoopOrder) (sim : GameSimulation) (configured : sim.config = {})
    (all : EveryRow InBounds sim) :
    TrappingSimulation.processInputs order sim = some (processInputs order sim) := by
  have tables := apply_all_pending_tables sim sim.pendingInputs
  have applied : EveryRow InBounds (sim.pendingInputs.foldl applyPendingInput sim) := by
    intro entity later present
    rw [apply_all_pending_row] at present
    obtain ⟨row, found, isLater⟩ := Option.map_eq_some_iff.mp present
    subst isLater
    rw [configured]
    exact apply_inputs_in_bounds sim.timeMs _ (all entity row found)
  unfold TrappingSimulation.processInputs processInputs
  dsimp only
  have config : (sim.pendingInputs.foldl applyPendingInput sim).config = {} :=
    tables.config.trans configured
  generalize sim.pendingInputs.foldl applyPendingInput sim = after at applied config
  have looped := for_each_safe InBounds order .integrateMovement (fun row => row.player.isSome)
    (TrappingSimulation.integrateMovement after.config) (integrateMovement after.config)
    { after with pendingInputs := [] }
    (by rw [config]; exact fun row bounds isPlayer => integrate_safe bounds isPlayer)
    (by rw [config]; exact fun row bounds isPlayer => integrate_in_bounds bounds isPlayer)
    (fun row isPlayer => by
      obtain ⟨transform, velocity, moved, _⟩ := integrate_changes after.config row
      rw [moved]
      exact isPlayer)
    applied
  rw [safe_bind looped]

theorem create_projectile_safe (sim : GameSimulation) (request : ProjectileRequest)
    (type : WeaponType) (isDefault : request.weapon = defaultWeaponDefinition type) :
    TrappingSimulation.createProjectile sim request = some (createProjectile sim request) := by
  unfold TrappingSimulation.createProjectile createProjectile
  dsimp only [GameSimulation.allocateNetworkId]
  rw [safe_bind (projectile_row_safe _ _ request type isDefault)]

theorem process_warmups_safe (order : LoopOrder) (sim : GameSimulation)
    (configured : sim.config = {}) :
    TrappingSimulation.processWeaponWarmups order sim =
      some (processWeaponWarmups order sim) := by
  unfold TrappingSimulation.processWeaponWarmups processWeaponWarmups
  refine foldlM_eq_some (fun _ => True) _ _ _ ?_ (fun _ _ _ _ => trivial) _ trivial
  intro request member after _
  obtain ⟨entity, _, requested⟩ := List.mem_filterMap.mp member
  obtain ⟨row, _, isRequest⟩ := Option.bind_eq_some_iff.mp requested
  rw [configured] at isRequest
  obtain ⟨_, _, _, _, _, weapon, _, _, found⟩ := request_of_row isRequest
  exact create_projectile_safe after request weapon.type (default_weapon_cases found)

theorem process_respawns_safe (order : LoopOrder) (sim : GameSimulation)
    (configured : sim.config = {}) (all : EveryRow InBounds sim) :
    TrappingSimulation.processRespawns order sim = some (processRespawns order sim) := by
  unfold TrappingSimulation.processRespawns processRespawns
  rw [configured]
  apply for_each_safe InBounds
  · exact fun row _ _ => respawn_safe sim.timeMs row
  · exact fun row bounds _ => respawn_in_bounds sim.timeMs bounds
  · intro row viewed
    obtain ⟨player, transform, velocity, weapon, respawned, client, placed, moving⟩ :=
      respawn_changes {} sim.timeMs row
    have isPlayer := congrArg Option.isSome client
    simp only [Option.isSome_map] at isPlayer
    unfold inRespawnView at viewed ⊢
    simp only [Bool.and_eq_true] at viewed ⊢
    rw [respawned]
    exact ⟨⟨⟨viewed.1.1.1, isPlayer.trans viewed.1.1.2⟩, placed viewed.1.2⟩, moving viewed.2⟩
  · exact all

/-! The projectiles. -/

theorem find_target_safe (sim : GameSimulation) (projectile : ProjectileComponent)
    {transform : TransformComponent} (onMap : OnMap {} transform) (targets : List Entity)
    (bounds : ∀ target ∈ targets, ∀ row, sim.registry.get? target = some row → InBounds row) :
    TrappingSimulation.findTarget sim projectile transform targets =
      some (targets.find? fun target =>
        (sim.registry.get? target).any (hits projectile transform)) := by
  induction targets with
  | nil => rfl
  | cons target rest ih =>
      have later := ih fun other member => bounds other (List.mem_cons_of_mem target member)
      unfold TrappingSimulation.findTarget
      rw [List.find?_cons]
      cases present : sim.registry.get? target with
      | none => exact later
      | some row =>
          have safe := hits_safe projectile onMap (bounds target List.mem_cons_self row present)
          dsimp only
          rw [safe_bind safe, Option.any_some]
          cases hits projectile transform row with
          | true => rfl
          | false => exact later

/-- What the loop over the projectiles keeps: the rows that stay are within the
bounds, and no target is a projectile or about to be destroyed. -/
structure Looping (targets : List Entity) (state : GameSimulation × List Entity) : Prop where
  configured : state.1.config = {}
  bounds : EveryRowBut state.2 InBounds state.1
  spared : ∀ target ∈ targets, target ∉ state.2
  players : ∀ target ∈ targets, ∀ row, state.1.registry.get? target = some row →
    row.projectile = none

section Turn

variable {targets : List Entity} {sim : GameSimulation} {toDestroy : List Entity}

theorem turn_looping (entity : Entity) (looping : Looping targets (sim, toDestroy)) :
    Looping targets (processProjectile targets (sim, toDestroy) entity) := by
  have tables := process_projectile_tables targets sim toDestroy entity
  have configured : sim.config = {} := looping.configured
  have rows : RowsRelated SameStanding sim
      (processProjectile targets (sim, toDestroy) entity).1 := by
    refine process_projectile_rows SameStanding.refl SameStanding.trans targets sim toDestroy
      entity ?_ ?_
    · intro row _
      obtain ⟨transform, flown, placed⟩ := fly_changes sim.config row
      rw [flown]
      exact ⟨rfl, rfl, rfl, rfl, fun had => placed ▸ had, id⟩
    · intro projectileId projectile row
      obtain ⟨player, damaged, client⟩ :=
        damage_changes sim.config sim.timeMs projectileId projectile row
      rw [damaged]
      exact ⟨rfl, client, rfl, rfl, id, id⟩
  constructor
  · exact tables.config.trans configured
  · apply turn_every_row
    · rw [configured]
      exact fun row projectile transform bounds _ flown stays => fly_in_bounds bounds flown stays
    · rw [configured]
      exact fun projectileId projectile row => damage_in_bounds sim.timeMs projectileId projectile
    · exact looping.bounds
  · intro target aimed listed
    have notYet := looping.spared target aimed
    -- A turn lists at most its own entity, which is a projectile.
    have newly (row : Components) (projectile : ProjectileComponent)
        (present : sim.registry.get? entity = some row) (carries : row.projectile = some projectile)
        (either : target ∈ toDestroy ++ [entity]) : False := by
      rcases List.mem_append.mp either with old | new
      · exact notYet old
      · rw [List.mem_singleton.mp new] at aimed
        have none := looping.players entity aimed row present
        rw [carries] at none
        cases none
    have turn := process_projectile_turn targets sim toDestroy entity
    generalize processProjectile targets (sim, toDestroy) entity = result at turn listed
    cases turn with
    | skipped => exact notYet listed
    | flew => exact notYet listed
    | gone row projectile transform present carries => exact newly row projectile present carries listed
    | struck row identity projectile transform target' targetRow present carries =>
        exact newly row projectile present carries listed
  · intro target aimed later present
    obtain ⟨row, found, standing⟩ := rows.backward present
    rw [standing.projectile]
    exact looping.players target aimed row found

theorem turn_safe (entity : Entity) (looping : Looping targets (sim, toDestroy))
    (unlisted : entity ∉ toDestroy) :
    TrappingSimulation.processProjectile targets (sim, toDestroy) entity =
      some (processProjectile targets (sim, toDestroy) entity) := by
  have configured : sim.config = {} := looping.configured
  unfold TrappingSimulation.processProjectile processProjectile
  dsimp only
  cases present : sim.registry.get? entity with
  | none => rfl
  | some row =>
      have bounds := looping.bounds entity row present unlisted
      dsimp only
      rw [configured, safe_bind (fly_safe bounds)]
      cases isIdentity : (fly {} row).identity with
      | none => rfl
      | some identity =>
          cases carries : (fly {} row).projectile with
          | none => rfl
          | some projectile =>
              cases flown : (fly {} row).transform with
              | none => rfl
              | some transform =>
                  dsimp only
                  have moved := update_entity_safe
                    (fun row => do
                      let flown ← TrappingSimulation.fly {} row
                      some (flown, []))
                    (fun row => (fly {} row, [])) sim entity (by
                      intro other isOther
                      rw [present] at isOther
                      cases isOther
                      rw [safe_bind (fly_safe bounds)])
                  rw [safe_bind moved, safe_bind (gone_safe sim.timeMs projectile transform)]
                  cases stays : projectileGone {} sim.timeMs projectile transform with
                  | true => rfl
                  | false =>
                      have onMap : OnMap {} transform := by
                        obtain ⟨place, isPlace, placeOn⟩ :=
                          (fly_in_bounds bounds flown stays).placed
                        rw [flown] at isPlace
                        cases isPlace
                        exact placeOn
                      -- A target flies nowhere, so it is where it was.
                      have aims (target : Entity) (aimed : target ∈ targets) (later : Components)
                          (found : (sim.updateEntity (fun row => (fly {} row, []))
                            entity).registry.get? target = some later) : InBounds later := by
                        have different : target ≠ entity := by
                          intro same
                          obtain ⟨_, isFlown, _⟩ := fly_changes {} row
                          rw [isFlown] at carries
                          have none := looping.players target aimed row (same ▸ present)
                          rw [none] at carries
                          cases carries
                        rw [update_entity_row, if_neg different] at found
                        exact looping.bounds target later found (looping.spared target aimed)
                      rw [if_neg Bool.false_ne_true, if_neg Bool.false_ne_true,
                        safe_bind (find_target_safe _ projectile onMap targets aims)]
                      cases isTarget : targets.find? _ with
                      | none => rfl
                      | some target =>
                          have aimed := List.mem_of_find?_eq_some isTarget
                          dsimp only
                          rw [safe_bind (update_entity_safe _
                            (damagePlayer {} sim.timeMs identity.id projectile) _ target
                            fun later found => damage_safe sim.timeMs identity.id projectile
                              (aims target aimed later found))]

/-- The loop goes through: it visits every projectile once, before it lists it. -/
theorem loop_safe (entities : List Entity) (distinct : entities.Nodup)
    (looping : Looping targets (sim, toDestroy))
    (unlisted : ∀ entity ∈ entities, entity ∉ toDestroy) :
    entities.foldlM (TrappingSimulation.processProjectile targets) (sim, toDestroy) =
      some (entities.foldl (processProjectile targets) (sim, toDestroy)) := by
  induction entities generalizing sim toDestroy with
  | nil => rfl
  | cons entity rest ih =>
      obtain ⟨fresh, distinctRest⟩ := List.nodup_cons.mp distinct
      have turn := process_projectile_turn targets sim toDestroy entity
      have next := turn_looping entity looping
      rw [List.foldlM_cons, List.foldl_cons,
        safe_bind (turn_safe entity looping (unlisted entity List.mem_cons_self))]
      have still : ∀ other ∈ rest,
          other ∉ (processProjectile targets (sim, toDestroy) entity).2 := by
        intro other member listed
        have notYet := unlisted other (List.mem_cons_of_mem entity member)
        have different : other ≠ entity := fun same => fresh (same ▸ member)
        have either : other ∉ toDestroy ++ [entity] := by
          rw [List.mem_append, List.mem_singleton, not_or]
          exact ⟨notYet, different⟩
        generalize processProjectile targets (sim, toDestroy) entity = result at turn listed
        cases turn with
        | skipped => exact notYet listed
        | flew => exact notYet listed
        | gone => exact either listed
        | struck => exact either listed
      exact ih distinctRest next still

end Turn

theorem process_projectiles_safe (order : LoopOrder) (sim : GameSimulation)
    (configured : sim.config = {}) (all : EveryRow InBounds sim) :
    TrappingSimulation.processProjectiles order sim = some (processProjectiles order sim) := by
  have looping : Looping (sim.registry.view order .projectileTargets inTargetView) (sim, []) := by
    refine ⟨configured, fun entity row present _ => all entity row present, by simp, ?_⟩
    intro target aimed row present
    obtain ⟨found, isRow, viewed⟩ := (sim.registry.mem_view order _ _ target).mp aimed
    rw [present] at isRow
    cases isRow
    unfold inTargetView at viewed
    simp only [Bool.and_eq_true] at viewed
    exact (all target row present).apart viewed.1.2
  have looped := loop_safe (sim.registry.view order .projectiles inProjectileView)
    (sim.registry.nodup_view order _ _) looping (by simp)
  unfold TrappingSimulation.processProjectiles processProjectiles
  dsimp only
  rw [safe_bind looped]

/-! A run. -/

theorem tick_safe (order : LoopOrder) (sim : GameSimulation) (configured : sim.config = {})
    (all : EveryRow InBounds sim) :
    TrappingSimulation.tickFixed order sim = some (tickFixed order sim) := by
  have rule : TickRule InBounds (advanceClock sim) := in_bounds_rule sim (.tick order) configured
  have started : EveryRow InBounds (advanceClock sim) := all
  have config : (advanceClock sim).config = {} := configured
  unfold TrappingSimulation.tickFixed tickFixed
  generalize advanceClock sim = start at rule started config ⊢
  have tables := process_inputs_tables order start
  have warmups := process_warmups_setup order (processInputs order start)
  have projectiles := process_projectiles_setup order
    (processWeaponWarmups order (processInputs order start))
  have moved := tables.config.trans config
  have warmed := warmups.config.trans moved
  have flown := projectiles.config.trans warmed
  rw [safe_bind (process_inputs_safe order start config started),
    safe_bind (process_warmups_safe order _ moved),
    safe_bind (process_projectiles_safe order _ warmed (rule.warmed order started))]
  exact process_respawns_safe order _ flown (rule.flown order started)

theorem submit_login_safe (sim : GameSimulation) (command : LoginCommand)
    (configured : sim.config = {}) :
    TrappingSimulation.submitLogin sim command = some (submitLogin sim command) := by
  unfold TrappingSimulation.submitLogin submitLogin
  dsimp only
  split
  · rfl
  · split
    · rfl
    · rw [configured, safe_bind (spawn_yields _).1]

/-- The run with trapping arithmetic meets no trap. -/
theorem run_safe (calls : List ServerCall) :
    TrappingSimulation.serverRun {} calls = some (serverRun {} calls) := by
  refine foldlM_eq_some (fun sim => sim.config = {} ∧ EveryRow InBounds sim) _ serverStep calls
    ?_ ?_ { config := {} } ⟨rfl, by intro entity row present; simp at present⟩
  · rintro call _ sim ⟨configured, all⟩
    cases call with
    | login command =>
        exact safe_bind (submit_login_safe sim command configured)
          fun logged => some logged.1
    | input packet => rfl
    | tick order => exact tick_safe order sim configured all
  · rintro call _ sim ⟨configured, all⟩
    exact ⟨(server_step_config sim call).trans configured,
      server_step_every_row sim call (in_bounds_rule sim call configured) all⟩

/-! The whole of it. -/

/-- A player on the map, no faster than the limit. -/
def PlayerInBounds (row : Components) : Prop :=
  row.player.isSome → ∃ place velocity, row.transform = some place ∧ OnMap {} place ∧
    row.velocity = some velocity ∧
    Limited ({} : SimulationConfig).maxMoveSpeedPerSecond.toInt velocity

/-- A tick moves every player by at most the way at full speed on each axis, or
announces its respawn at its new place. -/
def TickStaysNear (order : LoopOrder) (sim : GameSimulation) : Prop :=
  ∀ entity row, sim.registry.get? entity = some row → row.player.isSome →
    ∃ later place place', (tickFixed order sim).registry.get? entity = some later ∧
      row.transform = some place ∧ later.transform = some place' ∧
      (Within kWayPerTick place place' ∨
        ∃ added event, Queued sim (tickFixed order sim) added ∧
          .playerRespawned event ∈ added ∧ row.identity = some { id := event.entityId } ∧
          event.x = place'.x ∧ event.y = place'.y)

/-- Under the default configuration every player of every run is within the
bounds, every next tick moves it by no more than its speed allows, and no
signed operation of the run overflows. -/
theorem movement_stays_in_bounds (calls : List ServerCall) :
    EveryRow PlayerInBounds (serverRun {} calls) ∧
      (∀ order, TickStaysNear order (serverRun {} calls)) ∧
      TrappingSimulation.serverRun {} calls = some (serverRun {} calls) := by
  have all := run_in_bounds calls
  have configured := server_run_config {} calls
  refine ⟨?_, ?_, run_safe calls⟩
  · intro entity row present isPlayer
    obtain ⟨_, ⟨place, isPlace, onMap⟩, ⟨velocity, isVelocity, _, limited⟩, _⟩ :=
      all entity row present
    exact ⟨place, velocity, isPlace, onMap, isVelocity, limited isPlayer⟩
  · intro order entity row present isPlayer
    exact tick_within order _ configured present (all entity row present) isPlayer

end Brawololo.OverflowFreedom
