import Brawololo.EntityIdentity
import Brawololo.SimulationSnapshots

/-!
What a snapshot shows. A snapshot for an observer lists the entities that the
observer owns and those whose chunk is near the chunk of its player; without a
player it lists every entity. Both the rows it selects and what it says about
each are those of the simulation at that moment.
-/

namespace Brawololo.AreaOfInterest

open GameTypes EntityStore Simulation Simulation.GameSimulation SimulationStages
open SimulationSnapshots EntityIdentity

/-! Chunks. -/

/-- What `ChunkForPosition` needs of a map to be defined: the extents that it clamps
to are at least one pixel, the size that it divides by is not zero, and none of
the three products overflows. -/
structure HasExtent (map : MapConfig) : Prop where
  width : 0 < map.widthTiles.toInt * map.tileSizePixels.toInt
  widthFits : map.widthTiles.toInt * map.tileSizePixels.toInt < 2 ^ 31
  height : 0 < map.heightTiles.toInt * map.tileSizePixels.toInt
  heightFits : map.heightTiles.toInt * map.tileSizePixels.toInt < 2 ^ 31
  chunkSize : map.tileSizePixels.toInt * map.chunkSizeTiles.toInt ≠ 0
  chunkSizeFits : -2 ^ 31 ≤ map.tileSizePixels.toInt * map.chunkSizeTiles.toInt ∧
    map.tileSizePixels.toInt * map.chunkSizeTiles.toInt < 2 ^ 31

/-- The chunks are at most the radius apart along both axes. -/
structure Near (map : MapConfig) (observer candidate : ChunkCoord) : Prop where
  x : |observer.x.toInt - candidate.x.toInt| ≤ map.interestRadiusChunks.toInt
  y : |observer.y.toInt - candidate.y.toInt| ≤ map.interestRadiusChunks.toInt

theorem Near.symm {map : MapConfig} {first second : ChunkCoord} (near : Near map first second) :
    Near map second first :=
  ⟨by rw [abs_sub_comm]; exact near.x, by rw [abs_sub_comm]; exact near.y⟩

theorem clamp_bounds (value maxValue : Fixed) (extent : 0 ≤ maxValue.toInt) :
    0 ≤ (clampFixed value 0 maxValue).toInt := by
  unfold clampFixed
  split
  · exact Int.le_refl 0
  · next notBelow =>
      split
      · exact extent
      · exact Int32.le_iff_toInt_le.mp (Int32.not_lt.mp notBelow)

/-- The quotient of a pixel position has the sign of the chunk size. -/
theorem chunk_index_bounds (pixel size : Int32) (atLeast : 0 ≤ pixel.toInt) :
    (0 ≤ size.toInt → 0 ≤ (pixel / size).toInt) ∧
    (size.toInt ≤ 0 → (pixel / size).toInt ≤ 0) ∧ -2 ^ 31 < (pixel / size).toInt := by
  have notMin : pixel ≠ Int32.minValue := by
    rintro rfl
    exact absurd atLeast (by decide)
  have below := pixel.toInt_lt
  rw [Int32.toInt_div_of_ne_left _ _ notMin]
  have quotient := Int.natAbs_tdiv_le_natAbs pixel.toInt size.toInt
  refine ⟨fun sign => Int.tdiv_nonneg atLeast sign, fun sign => Int.tdiv_nonpos_of_nonneg_of_nonpos
    atLeast sign, ?_⟩
  omega

theorem abs_difference_le_iff {first second radius : Int32}
    (fits : -2 ^ 31 < first.toInt - second.toInt ∧ first.toInt - second.toInt < 2 ^ 31) :
    absInt32 (first - second) ≤ radius ↔ |first.toInt - second.toInt| ≤ radius.toInt := by
  have difference : (first - second).toInt = first.toInt - second.toInt := by
    rw [Int32.toInt_sub]
    exact Int.bmod_eq_of_le (by omega) (by omega)
  unfold absInt32
  split
  · next negative =>
      have sign := Int32.lt_iff_toInt_lt.mp negative
      rw [difference, Int32.toInt_zero] at sign
      rw [Int32.le_iff_toInt_le, Int32.toInt_neg, difference, abs_of_neg sign,
        Int.bmod_eq_of_le (by omega) (by omega)]
  · next notNegative =>
      have sign := Int32.le_iff_toInt_le.mp (Int32.not_lt.mp notNegative)
      rw [difference, Int32.toInt_zero] at sign
      rw [Int32.le_iff_toInt_le, difference, abs_of_nonneg sign]

/-- Two quotients by one size do not overflow when they are subtracted. -/
theorem chunk_difference_le_iff {first second size radius : Int32} (firstPixel : 0 ≤ first.toInt)
    (secondPixel : 0 ≤ second.toInt) :
    absInt32 (first / size - second / size) ≤ radius ↔
      |(first / size).toInt - (second / size).toInt| ≤ radius.toInt := by
  obtain ⟨firstUp, firstDown, firstMin⟩ := chunk_index_bounds first size firstPixel
  obtain ⟨secondUp, secondDown, secondMin⟩ := chunk_index_bounds second size secondPixel
  have firstMax := (first / size).toInt_lt
  have secondMax := (second / size).toInt_lt
  apply abs_difference_le_iff
  rcases Int.le_total 0 size.toInt with positive | negative
  · have firstSign := firstUp positive
    have secondSign := secondUp positive
    omega
  · have firstSign := firstDown negative
    have secondSign := secondDown negative
    omega

/-- The last pixel along an axis. -/
theorem last_pixel_value {tiles tileSize : Int32} (positive : 0 < tiles.toInt * tileSize.toInt)
    (fits : tiles.toInt * tileSize.toInt < 2 ^ 31) :
    (tiles * tileSize - 1).toInt = tiles.toInt * tileSize.toInt - 1 := by
  have pixels : (tiles * tileSize).toInt = tiles.toInt * tileSize.toInt := by
    rw [Int32.toInt_mul]
    exact Int.bmod_eq_of_le (by omega) (by omega)
  rw [Int32.toInt_sub, pixels, Int32.toInt_one]
  exact Int.bmod_eq_of_le (by omega) (by omega)

theorem in_area_iff {map : MapConfig} (extent : HasExtent map) (x y x' y' : Fixed) :
    isChunkInAreaOfInterest map (chunkForPosition map x y) (chunkForPosition map x' y') = true ↔
      Near map (chunkForPosition map x y) (chunkForPosition map x' y') := by
  unfold isChunkInAreaOfInterest
  dsimp only
  rw [Bool.and_eq_true, decide_eq_true_eq, decide_eq_true_eq]
  unfold chunkForPosition
  dsimp only
  have width : 0 ≤ (map.widthTiles * map.tileSizePixels - 1).toInt := by
    rw [last_pixel_value extent.width extent.widthFits]
    exact Int.le_sub_one_of_lt extent.width
  have height : 0 ≤ (map.heightTiles * map.tileSizePixels - 1).toInt := by
    rw [last_pixel_value extent.height extent.heightFits]
    exact Int.le_sub_one_of_lt extent.height
  rw [chunk_difference_le_iff (clamp_bounds _ _ width) (clamp_bounds _ _ width),
    chunk_difference_le_iff (clamp_bounds _ _ height) (clamp_bounds _ _ height)]
  constructor
  · rintro ⟨alongX, alongY⟩
    exact ⟨alongX, alongY⟩
  · rintro ⟨alongX, alongY⟩
    exact ⟨alongX, alongY⟩

/-! What a state says about a row. -/

structure ShowsCombat (row : Components) (player : PlayerComponent) (combat : CombatStateDTO) :
    Prop where
  entityId : row.identity = some { id := combat.entityId }
  health : combat.health = player.health
  maxHealth : combat.maxHealth = player.maxHealth
  defeated : combat.defeated = player.defeated
  respawnAtMs : combat.respawnAtMs = player.respawnAtMs
  weapon : ∀ weapon, row.weapon = some weapon → combat.weaponType = weapon.type ∧
    combat.weaponWarming = weapon.warming ∧
    combat.weaponWarmupCompletesAtMs = weapon.warmupCompletesAtMs

/-- The state tells the observer the current components of the row. -/
structure Shows (row : Components) (state : EntityStateDTO) : Prop where
  identity : row.identity = some { id := state.movement.entityId }
  transform : row.transform = some { x := state.movement.x, y := state.movement.y }
  velocity : row.velocity = some { vx := state.movement.vx, vy := state.movement.vy }
  aim : row.aim.getD {} = { x := state.movement.aimX, y := state.movement.aimY }
  replicated : state.replication.entityId = state.movement.entityId
  owner : state.replication.ownerClientId = (row.ownedBy.map fun owner => owner.clientId).getD 0
  player : ∀ player, row.player = some player → state.replication.kind = .player ∧
    ∃ combat, state.combat = some combat ∧ ShowsCombat row player combat
  projectile : ∀ projectile, row.player = none → row.projectile = some projectile →
    state.replication.kind = .projectile ∧
      state.combat = some { entityId := state.movement.entityId
                            weaponType := projectile.sourceWeapon
                            serverOwnedProjectile := true
                            projectileOwnerId := projectile.ownerId }

theorem entity_state_shows {observerClientId : ClientId} {row : Components}
    {state : EntityStateDTO} (isState : entityState observerClientId row = some state) :
    Shows row state := by
  obtain ⟨movement, isMovement, named⟩ := Option.map_eq_some_iff.mp isState
  unfold movementState at isMovement
  split at isMovement
  · next identity transform velocity hasIdentity hasTransform hasVelocity =>
      cases isMovement
      dsimp only at named
      -- A player shows its combat state, a projectile its owner, and any other row neither.
      cases isPlayer : row.player with
      | some player =>
          rw [isPlayer] at named
          cases named
          refine ⟨hasIdentity, hasTransform, hasVelocity, rfl, rfl, rfl, ?_, ?_⟩
          · intro other same
            cases isPlayer.symm.trans same
            refine ⟨rfl, _, rfl, ?_⟩
            unfold playerCombat
            cases hasWeapon : row.weapon with
            | none =>
                refine ⟨hasIdentity, rfl, rfl, rfl, rfl, ?_⟩
                intro weapon found
                rw [hasWeapon] at found
                cases found
            | some weapon =>
                refine ⟨hasIdentity, rfl, rfl, rfl, rfl, ?_⟩
                intro other found
                rw [hasWeapon] at found
                cases found
                exact ⟨rfl, rfl, rfl⟩
          · intro projectile absent
            rw [isPlayer] at absent
            cases absent
      | none =>
          rw [isPlayer] at named
          cases isProjectile : row.projectile with
          | none =>
              rw [isProjectile] at named
              cases named
              refine ⟨hasIdentity, hasTransform, hasVelocity, rfl, rfl, rfl, ?_, ?_⟩
              · intro player present
                rw [isPlayer] at present
                cases present
              · intro projectile _ present
                rw [isProjectile] at present
                cases present
          | some projectile =>
              rw [isProjectile] at named
              cases named
              refine ⟨hasIdentity, hasTransform, hasVelocity, rfl, rfl, rfl, ?_, ?_⟩
              · intro player present
                rw [isPlayer] at present
                cases present
              · intro other _ present
                rw [isProjectile] at present
                cases present
                exact ⟨rfl, rfl⟩
  · cases isMovement

/-! What a snapshot lists. -/

/-- The states are those of the live entities whose rows are seen, each entity
once. -/
def Lists (sim : GameSimulation) (seen : Components → Prop) (states : List EntityStateDTO) :
    Prop :=
  ∃ listed : List Entity, listed.Nodup ∧
    (∀ entity, entity ∈ listed ↔ ∃ row, sim.registry.get? entity = some row ∧ seen row) ∧
    List.Forall₂ (fun entity state => ∃ row, sim.registry.get? entity = some row ∧ Shows row state)
      listed states

/-- Every live entity can be shown. -/
def Bodied (sim : GameSimulation) : Prop :=
  ∀ entity row, sim.registry.get? entity = some row →
    row.identity.isSome ∧ row.transform.isSome ∧ row.velocity.isSome

theorem entity_state_some (observerClientId : ClientId) {row : Components}
    (bodied : row.identity.isSome ∧ row.transform.isSome ∧ row.velocity.isSome) :
    ∃ state, entityState observerClientId row = some state := by
  obtain ⟨hasIdentity, hasTransform, hasVelocity⟩ := bodied
  obtain ⟨identity, isIdentity⟩ := Option.isSome_iff_exists.mp hasIdentity
  obtain ⟨transform, isTransform⟩ := Option.isSome_iff_exists.mp hasTransform
  obtain ⟨velocity, isVelocity⟩ := Option.isSome_iff_exists.mp hasVelocity
  unfold entityState movementState
  rw [isIdentity, isTransform, isVelocity]
  exact ⟨_, rfl⟩

/-- Choosing from distinct items yields what the chosen ones yield, in order. -/
theorem forall_filter_map {Item Value : Type} (items : List Item) (yields : Item → Option Value) :
    List.Forall₂ (fun item value => yields item = some value)
      (items.filter fun item => (yields item).isSome) (items.filterMap yields) := by
  induction items with
  | nil => exact List.Forall₂.nil
  | cons item rest ih =>
      cases yielded : yields item with
      | none => simpa [yielded] using ih
      | some value => simpa [yielded] using ih

theorem forall_left {Item Value : Type} {related : Item → Value → Prop} {items : List Item}
    {values : List Value} (all : List.Forall₂ related items values) {item : Item}
    (member : item ∈ items) : ∃ value ∈ values, related item value := by
  induction all with
  | nil => cases member
  | cons first _ ih =>
      rcases List.mem_cons.mp member with rfl | later
      · exact ⟨_, List.mem_cons_self, first⟩
      · obtain ⟨value, isValue, holds⟩ := ih later
        exact ⟨value, List.mem_cons_of_mem _ isValue, holds⟩

theorem forall_right {Item Value : Type} {related : Item → Value → Prop} {items : List Item}
    {values : List Value} (all : List.Forall₂ related items values) {value : Value}
    (member : value ∈ values) : ∃ item ∈ items, related item value :=
  forall_left all.flip member

/-- A snapshot lists the entities its visibility test passes. -/
theorem build_snapshot_lists (order : LoopOrder) (sim : GameSimulation) (bodied : Bodied sim)
    (observerClientId : ClientId) (snapshotId baselineId : SnapshotId) :
    Lists sim
      (fun row => isVisible sim.config (observerChunk sim observerClientId) observerClientId row)
      (buildSnapshot order sim observerClientId snapshotId baselineId).entities := by
  let visible := isVisible sim.config (observerChunk sim observerClientId) observerClientId
  let shown (entity : Entity) : Option EntityStateDTO :=
    (sim.registry.get? entity).bind fun row =>
      if visible row then entityState observerClientId row else none
  have shown_iff (entity : Entity) (state : EntityStateDTO) : shown entity = some state ↔
      ∃ row, sim.registry.get? entity = some row ∧ visible row = true ∧
        entityState observerClientId row = some state := by
    constructor
    · intro isShown
      obtain ⟨row, present, isState⟩ := Option.bind_eq_some_iff.mp isShown
      split at isState
      · next passes => exact ⟨row, present, passes, isState⟩
      · cases isState
    · rintro ⟨row, present, passes, isState⟩
      refine Option.bind_eq_some_iff.mpr ⟨row, present, ?_⟩
      rw [if_pos passes, isState]
  let view := sim.registry.view order .snapshotEntities inSnapshotView
  refine ⟨view.filter fun entity => (shown entity).isSome, ?_, ?_, ?_⟩
  · exact (sim.registry.nodup_view order .snapshotEntities inSnapshotView).filter _
  · intro entity
    rw [List.mem_filter, Registry.mem_view, Option.isSome_iff_exists]
    constructor
    · rintro ⟨_, state, isShown⟩
      obtain ⟨row, present, passes, _⟩ := (shown_iff entity state).mp isShown
      exact ⟨row, present, passes⟩
    · rintro ⟨row, present, passes⟩
      have body := bodied entity row present
      obtain ⟨state, isState⟩ := entity_state_some observerClientId body
      refine ⟨⟨row, present, ?_⟩, state, (shown_iff entity state).mpr ⟨row, present, passes, isState⟩⟩
      simp [inSnapshotView, body]
  · refine (forall_filter_map view shown).imp ?_
    intro entity state isShown
    obtain ⟨row, present, _, isState⟩ := (shown_iff entity state).mp isShown
    exact ⟨row, present, entity_state_shows isState⟩

theorem Lists.congr {sim : GameSimulation} {seen other : Components → Prop}
    {states : List EntityStateDTO} (lists : Lists sim seen states)
    (same : ∀ entity row, sim.registry.get? entity = some row → (seen row ↔ other row)) :
    Lists sim other states := by
  obtain ⟨listed, distinct, exact, shows⟩ := lists
  refine ⟨listed, distinct, ?_, shows⟩
  intro entity
  rw [exact]
  constructor
  · rintro ⟨row, present, passes⟩
    exact ⟨row, present, (same entity row present).mp passes⟩
  · rintro ⟨row, present, passes⟩
    exact ⟨row, present, (same entity row present).mpr passes⟩

/-! Every row of a server has a body. -/

theorem bodied_of_rows {before after : GameSimulation}
    (rows : RowsRelated SameStanding before after) (bodied : Bodied before) : Bodied after := by
  intro entity later present
  obtain ⟨row, found, standing⟩ := rows.backward present
  obtain ⟨named, placed, moving⟩ := bodied entity row found
  exact ⟨by rw [standing.identity]; exact named, standing.transform placed,
    standing.velocity moving⟩

theorem bodied_of_creates {before after : GameSimulation} {row : Components}
    (creates : Creates before after row)
    (body : row.identity.isSome ∧ row.transform.isSome ∧ row.velocity.isSome)
    (bodied : Bodied before) : Bodied after := by
  intro entity found present
  rcases creates_cases creates present with ⟨_, rfl⟩ | old
  · exact body
  · exact bodied entity found old

theorem process_projectiles_bodied (order : LoopOrder) (sim : GameSimulation)
    (bodied : Bodied sim) : Bodied (processProjectiles order sim) := by
  intro entity row present
  unfold processProjectiles at present
  dsimp only at present
  rcases destroy_all_cases _ _ entity with gone | kept
  · rw [gone] at present
    cases present
  · rw [kept] at present
    exact bodied_of_rows (projectile_loop_standing _ _ sim) bodied entity row present

theorem tick_bodied (order : LoopOrder) (sim : GameSimulation) (bodied : Bodied sim) :
    Bodied (tickFixed order sim) := by
  have inputs : Bodied (processInputs order (advanceClock sim)) :=
    bodied_of_rows (process_inputs_standing order (advanceClock sim)) bodied
  have warmups : Bodied (processWeaponWarmups order (processInputs order (advanceClock sim))) := by
    unfold processWeaponWarmups
    apply Runs.run_invariant createProjectile Bodied
    · intro after request kept
      exact bodied_of_creates (create_projectile_creates after request) ⟨rfl, rfl, rfl⟩ kept
    · exact bodied_of_rows (finish_warmups_standing order _) inputs
  exact bodied_of_rows (process_respawns_standing order _)
    (process_projectiles_bodied order _ warmups)

theorem submit_login_bodied (sim : GameSimulation) (command : LoginCommand)
    (bodied : Bodied sim) : Bodied (submitLogin sim command).1 := by
  rcases submit_login_cases sim command with same | ⟨_, _, joined⟩
  · rw [same]
    exact bodied
  · rw [joined]
    apply bodied_of_creates (create_player_creates _ _ _ _) ⟨rfl, rfl, rfl⟩
    exact bodied

theorem submit_input_bodied (sim : GameSimulation) (packet : ClientInputPacket)
    (bodied : Bodied sim) : Bodied (submitInput sim packet).1 := by
  rcases submit_input_cases sim packet with ⟨same, _⟩ | ⟨_, _, accepted⟩
  · rw [same]
    exact bodied
  · rw [accepted]
    exact bodied

/-! Observers. -/

section Observing

variable {sim : GameSimulation}

/-- The observer owns the row, or it is near the observer's place. -/
def InView (sim : GameSimulation) (observerClientId : ClientId) (place : TransformComponent)
    (row : Components) : Prop :=
  row.ownedBy = some { clientId := observerClientId } ∨
    ∃ other, row.transform = some other ∧ Near sim.config.map
      (chunkForPosition sim.config.map place.x place.y)
      (chunkForPosition sim.config.map other.x other.y)

theorem row_owned_iff (row : Components) (clientId : ClientId) :
    rowOwnedByClient row clientId = true ↔ row.ownedBy = some { clientId := clientId } := by
  unfold rowOwnedByClient
  cases row.ownedBy with
  | none => simp
  | some owner =>
      cases owner
      simp

theorem observer_chunk_of_player {observerClientId : ClientId} {id : NetworkEntityId}
    {entity : Entity} {row : Components} {place : TransformComponent}
    (entry : sim.playerByClient[observerClientId]? = some id)
    (named : sim.entityByNetworkId[id]? = some entity)
    (present : sim.registry.get? entity = some row) (hasIdentity : row.identity.isSome)
    (hasTransform : row.transform = some place) (hasVelocity : row.velocity.isSome) :
    observerChunk sim observerClientId =
      some (chunkForPosition sim.config.map place.x place.y) := by
  obtain ⟨identity, isIdentity⟩ := Option.isSome_iff_exists.mp hasIdentity
  obtain ⟨velocity, isVelocity⟩ := Option.isSome_iff_exists.mp hasVelocity
  unfold observerChunk playerEntityForClient movementForEntity entityFor movementState
  rw [entry, Option.bind_some, named, Option.bind_some, present, Option.bind_some, isIdentity,
    hasTransform, isVelocity]
  rfl

theorem visible_iff (extent : HasExtent sim.config.map) {observerClientId : ClientId}
    {place : TransformComponent}
    (chunk : observerChunk sim observerClientId =
      some (chunkForPosition sim.config.map place.x place.y))
    {row : Components} (hasTransform : row.transform.isSome) :
    isVisible sim.config (observerChunk sim observerClientId) observerClientId row = true ↔
      InView sim observerClientId place row := by
  obtain ⟨other, isTransform⟩ := Option.isSome_iff_exists.mp hasTransform
  unfold isVisible InView
  rw [chunk, isTransform]
  dsimp only
  rw [Bool.or_eq_true, row_owned_iff, in_area_iff extent]
  simp

/-- Without a player for the observer the snapshot lists every live entity. -/
theorem lists_every_entity (order : LoopOrder) (bodied : Bodied sim) {observerClientId : ClientId}
    (absent : sim.playerByClient[observerClientId]? = none) (snapshotId baselineId : SnapshotId) :
    Lists sim (fun _ => True)
      (buildSnapshot order sim observerClientId snapshotId baselineId).entities := by
  apply (build_snapshot_lists order sim bodied observerClientId snapshotId baselineId).congr
  intro entity row present
  have noChunk : observerChunk sim observerClientId = none := by
    unfold observerChunk playerEntityForClient
    rw [absent]
    rfl
  rw [noChunk]
  simp [isVisible]

/-- The client's player: a live entity that carries it, with its id and place. -/
structure PlayerAt (sim : GameSimulation) (clientId : ClientId) (id : NetworkEntityId)
    (entity : Entity) (row : Components) (place : TransformComponent) : Prop where
  present : sim.registry.get? entity = some row
  identity : row.identity = some { id := id }
  client : row.player.map (fun player => player.clientId) = some clientId
  transform : row.transform = some place

/-- The client has no player. -/
def Playerless (sim : GameSimulation) (clientId : ClientId) : Prop :=
  ∀ entity row, sim.registry.get? entity = some row →
    row.player.map (fun player => player.clientId) ≠ some clientId

theorem identified_bodied (identified : Identified sim) : Bodied sim := by
  intro entity row present
  obtain ⟨placed, moving⟩ := identified.bodied entity row present
  exact ⟨by rw [identified.carried entity row present]; rfl, placed, moving⟩

/-- The tables lead to the client's player, and the client owns it. -/
theorem identified_player (identified : Identified sim)
    (room : sim.registry.created < 2 ^ 32 - 1) {clientId : ClientId} {id : NetworkEntityId}
    {entity : Entity} {row : Components} {place : TransformComponent}
    (stands : PlayerAt sim clientId id entity row place) :
    sim.playerByClient[clientId]? = some id ∧ sim.entityByNetworkId[id]? = some entity ∧
      row.ownedBy = some { clientId := clientId } := by
  obtain ⟨present, named, client, _⟩ := stands
  obtain ⟨player, isPlayer, rfl⟩ := Option.map_eq_some_iff.mp client
  have carried := identified.carried entity row present
  rw [named] at carried
  cases carried
  have entry := identified.entered entity row player present isPlayer
  refine ⟨entry, (identified.listed _ _).mpr ⟨rfl, row, present⟩, ?_⟩
  obtain ⟨other, found, _, sameId, isRow, _, _, owned⟩ := identified.placed _ _ entry
  have same := id_of_injective (Nat.lt_trans (sim.registry.get?_lt present) room)
    (Nat.lt_trans (sim.registry.get?_lt isRow) room) sameId
  subst same
  rw [present] at isRow
  cases isRow
  exact owned

theorem identified_playerless (identified : Identified sim) {clientId : ClientId}
    (playerless : Playerless sim clientId) : sim.playerByClient[clientId]? = none := by
  cases entry : sim.playerByClient[clientId]? with
  | none => rfl
  | some id =>
      obtain ⟨entity, row, player, _, present, isPlayer, client, _⟩ :=
        identified.placed clientId id entry
      refine absurd ?_ (playerless entity row present)
      rw [isPlayer, Option.map_some, client]

theorem lists_in_view (order : LoopOrder) (identified : Identified sim)
    (room : sim.registry.created < 2 ^ 32 - 1) (extent : HasExtent sim.config.map)
    {clientId : ClientId} {id : NetworkEntityId} {entity : Entity} {row : Components}
    {place : TransformComponent} (player : PlayerAt sim clientId id entity row place)
    (snapshotId baselineId : SnapshotId) :
    Lists sim (InView sim clientId place)
      (buildSnapshot order sim clientId snapshotId baselineId).entities := by
  have bodied := identified_bodied identified
  obtain ⟨entry, named, _⟩ := identified_player identified room player
  have chunk := observer_chunk_of_player entry named player.present
    (by rw [player.identity]; rfl) player.transform (bodied entity row player.present).2.2
  apply (build_snapshot_lists order sim bodied clientId snapshotId baselineId).congr
  intro other found present
  exact visible_iff extent chunk (bodied other found present).2.1

/-- The snapshot shows an entity exactly when it is in view. -/
theorem shown_iff_in_view {states : List EntityStateDTO} {seen : Components → Prop}
    (identified : Identified sim) (room : sim.registry.created < 2 ^ 32 - 1)
    (lists : Lists sim seen states) {entity : Entity} {row : Components} {id : NetworkEntityId}
    (present : sim.registry.get? entity = some row) (named : row.identity = some { id := id }) :
    (∃ state ∈ states, state.movement.entityId = id) ↔ seen row := by
  obtain ⟨listed, _, exact, shows⟩ := lists
  constructor
  · rintro ⟨state, member, rfl⟩
    obtain ⟨other, isListed, found, isRow, shown⟩ := forall_right shows member
    -- The ids of live entities are distinct, so the shown entity is this one.
    have same : other = entity := by
      have carriedOther := identified.carried other found isRow
      have carried := identified.carried entity row present
      rw [shown.identity] at carriedOther
      rw [named] at carried
      have sameId : idOf other = idOf entity := by
        simp only [Option.some.injEq, NetworkIdentityComponent.mk.injEq] at carriedOther carried
        rw [← carriedOther, carried]
      exact id_of_injective (Nat.lt_trans (sim.registry.get?_lt isRow) room)
        (Nat.lt_trans (sim.registry.get?_lt present) room) sameId
    subst same
    obtain ⟨again, isAgain, passes⟩ := (exact other).mp isListed
    rw [present] at isAgain
    cases isAgain
    exact passes
  · intro passes
    obtain ⟨state, member, found, isRow, shown⟩ :=
      forall_left shows ((exact entity).mpr ⟨row, present, passes⟩)
    rw [present] at isRow
    cases isRow
    refine ⟨state, member, ?_⟩
    have identity := shown.identity
    rw [named] at identity
    simp only [Option.some.injEq, NetworkIdentityComponent.mk.injEq] at identity
    exact identity.symm

theorem in_view_symm {first second : ClientId} {firstId secondId : NetworkEntityId}
    {firstEntity secondEntity : Entity} {firstRow secondRow : Components}
    {firstPlace secondPlace : TransformComponent} (identified : Identified sim)
    (room : sim.registry.created < 2 ^ 32 - 1)
    (one : PlayerAt sim first firstId firstEntity firstRow firstPlace)
    (two : PlayerAt sim second secondId secondEntity secondRow secondPlace)
    (inView : InView sim first firstPlace secondRow) : InView sim second secondPlace firstRow := by
  rcases inView with owned | ⟨place, isPlace, near⟩
  · left
    rw [(identified_player identified room two).2.2] at owned
    rw [(identified_player identified room one).2.2, owned]
  · right
    rw [two.transform] at isPlace
    cases isPlace
    exact ⟨firstPlace, one.transform, near.symm⟩

end Observing

/-- What the snapshots of a simulation show to every observer. -/
structure ExactInterest (sim : GameSimulation) : Prop where
  withPlayer : ∀ clientId id entity row place, PlayerAt sim clientId id entity row place →
    ∀ order snapshotId baselineId, Lists sim (InView sim clientId place)
      (buildSnapshot order sim clientId snapshotId baselineId).entities
  withoutPlayer : ∀ clientId, Playerless sim clientId →
    ∀ order snapshotId baselineId, Lists sim (fun _ => True)
      (buildSnapshot order sim clientId snapshotId baselineId).entities
  symmetric : ∀ first second firstId secondId firstEntity secondEntity firstRow secondRow
    firstPlace secondPlace, PlayerAt sim first firstId firstEntity firstRow firstPlace →
    PlayerAt sim second secondId secondEntity secondRow secondPlace → ∀ order order',
    ((∃ state ∈ (buildSnapshot order sim first 0 0).entities,
        state.movement.entityId = secondId) ↔
      ∃ state ∈ (buildSnapshot order' sim second 0 0).entities,
        state.movement.entityId = firstId)

/-- Along every server run that allocates fewer than `2 ^ 32 - 1` ids, snapshots
show exactly the area of interest. -/
theorem area_of_interest_exact (config : SimulationConfig)
    (server : config.mode = .serverAuthoritative) (extent : HasExtent config.map)
    (calls : List ServerCall) (unwrapped : allocations (serverRun config calls) < 2 ^ 32 - 1) :
    ExactInterest (serverRun config calls) := by
  have identified := server_run_identified config server calls unwrapped
  rw [← server_run_config config calls] at extent
  constructor
  · intro clientId id entity row place player order snapshotId baselineId
    exact lists_in_view order identified unwrapped extent player snapshotId baselineId
  · intro clientId playerless order snapshotId baselineId
    exact lists_every_entity order (identified_bodied identified)
      (identified_playerless identified playerless) snapshotId baselineId
  · intro first second firstId secondId firstEntity secondEntity firstRow secondRow firstPlace
      secondPlace one two order order'
    rw [shown_iff_in_view identified unwrapped
        (lists_in_view order identified unwrapped extent one 0 0) two.present two.identity,
      shown_iff_in_view identified unwrapped
        (lists_in_view order' identified unwrapped extent two 0 0) one.present one.identity]
    constructor
    · exact in_view_symm identified unwrapped one two
    · exact in_view_symm identified unwrapped two one

/-- Players 1 and 14 join far apart, and player 1 shoots. -/
def apart : List ServerCall :=
  [.login { header := { clientId := 1 } }, .login { header := { clientId := 14 } },
   .input { header := { clientId := 1, sequence := 1 }, input := { fire := true } },
   .tick .stored, .tick .stored]

theorem area_of_interest_exact_apart :
    allocations (serverRun {} apart) < 2 ^ 32 - 1 ∧ ExactInterest (serverRun {} apart) :=
  have unwrapped : allocations (serverRun {} apart) < 2 ^ 32 - 1 := by decide +kernel
  have extent : HasExtent ({} : SimulationConfig).map :=
    ⟨by decide, by decide, by decide, by decide, by decide, by decide⟩
  ⟨unwrapped, area_of_interest_exact {} rfl extent apart unwrapped⟩

end Brawololo.AreaOfInterest
