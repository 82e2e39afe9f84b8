import Brawololo.TrappingSimulation
import Brawololo.RowRules
import Brawololo.PlayerMotion
import Brawololo.CombatAccounts
import Brawololo.WeaponStages

/-!
The bounds of movement, spawns and flights under the default configuration: for
each arithmetic function the value it yields, without a trap, and from these
what is invariant of every row of a server. A player is on the map and at most
as fast per axis as the limit; a projectile is on the map after every tick, and
no faster than the widest aim makes it.
-/

namespace Brawololo.MovementBounds

open GameTypes EntityStore Simulation Simulation.GameSimulation SimulationStages EntityIdentity
open TrappingArithmetic RowRules PlayerMotion WeaponStages

/-! Positions and velocities. -/

def OnMap (map : MapConfig) (place : TransformComponent) : Prop :=
  (0 ≤ place.x ∧ place.x < mapWidthFixed map) ∧ 0 ≤ place.y ∧ place.y < mapHeightFixed map

/-- A velocity of at most `limit` on each axis, as integers. -/
def Limited (limit : Int) (velocity : VelocityComponent) : Prop :=
  (-limit ≤ velocity.vx.toInt ∧ velocity.vx.toInt ≤ limit) ∧
    -limit ≤ velocity.vy.toInt ∧ velocity.vy.toInt ≤ limit

theorem on_map_iff (place : TransformComponent) :
    OnMap {} place ↔ (0 ≤ place.x.toInt ∧ place.x.toInt < 10240000) ∧
      0 ≤ place.y.toInt ∧ place.y.toInt < 10240000 := by
  have width : (mapWidthFixed {}).toInt = 10240000 := by decide
  have height : (mapHeightFixed {}).toInt = 10240000 := by decide
  unfold OnMap
  simp only [Int32.le_iff_toInt_le, Int32.lt_iff_toInt_lt, width, height, Int32.toInt_zero]

theorem Limited.wider {limit wide : Int} {velocity : VelocityComponent}
    (limited : Limited limit velocity) (wider : limit ≤ wide) : Limited wide velocity := by
  unfold Limited at *
  omega

theorem clamp_toInt (value low high : Fixed) :
    (clampFixed value low high).toInt =
      if value.toInt < low.toInt then low.toInt
      else if high.toInt < value.toInt then high.toInt else value.toInt := by
  unfold clampFixed
  simp only [Int32.lt_iff_toInt_lt]
  split_ifs
  · rfl
  · rfl
  · rfl

/-! What the functions yield under the default configuration. -/

theorem integrate_yields (value : Fixed) :
    Yields32 (TrappingSimulation.integrateFixedPerSecond value 16)
      (integrateFixedPerSecond value 16) ((value.toInt * 16).tdiv 1000) := by
  have low := value.le_toInt
  have high := value.toInt_lt
  obtain ⟨above, below⟩ :
      -34359739 ≤ (value.toInt * 16).tdiv 1000 ∧ (value.toInt * 16).tdiv 1000 ≤ 34359739 :=
    tdiv_between (by decide) (by omega) (by omega)
  exact mul_div32_yields value.toInt_toInt64 rfl rfl (by decide) ⟨by omega, by omega⟩
    ⟨by omega, by omega⟩

theorem friction_yields (velocity : Fixed) :
    Yields32 (TrappingSimulation.applyFriction velocity) (applyFriction velocity)
      ((velocity.toInt * 72).tdiv 100) := by
  have low := velocity.le_toInt
  have high := velocity.toInt_lt
  obtain ⟨above, below⟩ :
      -2147483648 ≤ (velocity.toInt * 72).tdiv 100 ∧
        (velocity.toInt * 72).tdiv 100 ≤ 2147483647 :=
    tdiv_between (by decide) (by omega) (by omega)
  exact mul_div32_yields velocity.toInt_toInt64 rfl rfl (by decide) ⟨by omega, by omega⟩
    ⟨by omega, by omega⟩

/-- The change of the velocity per tick at full input. -/
def accelerationPerTick : Fixed := integrateFixedPerSecond (GameTypes.pixelsToFixed 2600) 16

theorem acceleration_yields (velocity : Fixed) (input : Int16)
    (bounded : -360000 ≤ velocity.toInt ∧ velocity.toInt ≤ 360000)
    (normalized : -1000 ≤ input.toInt ∧ input.toInt ≤ 1000) :
    Yields32 (TrappingSimulation.applyInputAcceleration velocity accelerationPerTick input)
      (applyInputAcceleration velocity accelerationPerTick input)
      (velocity.toInt + (41600 * input.toInt).tdiv 1000) := by
  have delta : accelerationPerTick.toInt64.toInt = 41600 := by decide
  obtain ⟨above, below⟩ :
      -41600 ≤ (41600 * input.toInt).tdiv 1000 ∧ (41600 * input.toInt).tdiv 1000 ≤ 41600 :=
    tdiv_between (by decide) (by omega) (by omega)
  have change := mul_div32_yields delta input.toInt_toInt64
    (show kFixedOne.toInt64.toInt = 1000 by decide) (by decide) ⟨by omega, by omega⟩
    ⟨by omega, by omega⟩
  have sum := add32_yields velocity (accelerationPerTick.toInt64 *
    input.toInt64 / kFixedOne.toInt64).toInt32 (by rw [change.exact]; exact ⟨by omega, by omega⟩)
  rw [change.exact] at sum
  refine ⟨?_, sum.exact⟩
  unfold TrappingSimulation.applyInputAcceleration
  rw [safe_bind change.safe]
  exact sum.safe

theorem digital_sign_cases (move : Int8) :
    digitalSign move = 0 ∨ digitalSign move = 1 ∨ digitalSign move = -1 := by
  unfold digitalSign
  split_ifs
  · exact Or.inl rfl
  · exact Or.inr (Or.inl rfl)
  · exact Or.inr (Or.inr rfl)
  · exact Or.inl rfl

theorem normalize_safe (moveX moveY : Int8) :
    TrappingSimulation.normalizeDigitalInput moveX moveY =
      some (normalizeDigitalInput moveX moveY) := by
  unfold TrappingSimulation.normalizeDigitalInput normalizeDigitalInput
  rcases digital_sign_cases moveX with x | x | x <;>
    rcases digital_sign_cases moveY with y | y | y <;>
      rw [x, y] <;> decide

theorem normalize_bounds (moveX moveY : Int8) :
    (-1000 ≤ (normalizeDigitalInput moveX moveY).x.toInt ∧
        (normalizeDigitalInput moveX moveY).x.toInt ≤ 1000) ∧
      -1000 ≤ (normalizeDigitalInput moveX moveY).y.toInt ∧
        (normalizeDigitalInput moveX moveY).y.toInt ≤ 1000 := by
  unfold normalizeDigitalInput
  rcases digital_sign_cases moveX with x | x | x <;>
    rcases digital_sign_cases moveY with y | y | y <;>
      rw [x, y] <;> decide

/-- The limit that is cut to, and its negation. -/
theorem cut_yields (steered : VelocityComponent) :
    Limited 360000
      { vx := clampFixed steered.vx (-GameTypes.pixelsToFixed 360) (GameTypes.pixelsToFixed 360)
        vy := clampFixed steered.vy (-GameTypes.pixelsToFixed 360)
          (GameTypes.pixelsToFixed 360) } := by
  have high : (GameTypes.pixelsToFixed 360).toInt = 360000 := by decide
  have low : (-GameTypes.pixelsToFixed 360).toInt = -360000 := by decide
  unfold Limited
  dsimp only
  rw [clamp_toInt, clamp_toInt, high, low]
  split_ifs <;> omega

theorem steer_yields (input : Option InputIntentComponent) (velocity : VelocityComponent)
    (limited : Limited 360000 velocity) :
    TrappingSimulation.steer {} input velocity = some (steer {} input velocity) ∧
      Limited 360000 (steer {} input velocity) := by
  refine ⟨?_, cut_yields _⟩
  unfold TrappingSimulation.steer steer
  cases input with
  | none =>
      dsimp only
      rw [safe_bind (friction_yields velocity.vx).safe, safe_bind (friction_yields velocity.vy).safe]
      rfl
  | some input =>
      obtain ⟨x, y⟩ := normalize_bounds input.moveX input.moveY
      have delta : TrappingSimulation.integrateFixedPerSecond
          ({} : SimulationConfig).movementAccelerationPerSecond
          ({} : SimulationConfig).tickDurationMs = some accelerationPerTick :=
        (integrate_yields _).safe
      dsimp only
      rw [safe_bind (normalize_safe input.moveX input.moveY), safe_bind delta,
        safe_bind (acceleration_yields velocity.vx _ limited.1 x).safe,
        safe_bind (acceleration_yields velocity.vy _ limited.2 y).safe]
      rfl

/-- The widest velocity of a projectile: the speed of the bow times the widest aim. -/
def kWidestVelocity : Int := 900 * 32768

theorem travel_yields (velocity : VelocityComponent) (place : TransformComponent)
    (limited : Limited kWidestVelocity velocity) (onMap : OnMap {} place) :
    TrappingSimulation.travel {} velocity place = some (travel {} velocity place) ∧
      (travel {} velocity place).x.toInt =
        place.x.toInt + (velocity.vx.toInt * 16).tdiv 1000 ∧
      (travel {} velocity place).y.toInt =
        place.y.toInt + (velocity.vy.toInt * 16).tdiv 1000 := by
  obtain ⟨⟨left, right⟩, top, bottom⟩ := (on_map_iff place).mp onMap
  have axis (speed position : Fixed) (slow : -kWidestVelocity ≤ speed.toInt ∧
      speed.toInt ≤ kWidestVelocity) (inside : 0 ≤ position.toInt ∧ position.toInt < 10240000) :
      Yields32 (add32 position (integrateFixedPerSecond speed 16))
        (position + integrateFixedPerSecond speed 16)
        (position.toInt + (speed.toInt * 16).tdiv 1000) := by
    have step := (integrate_yields speed).exact
    unfold kWidestVelocity at slow
    obtain ⟨above, below⟩ :
        -471860 ≤ (speed.toInt * 16).tdiv 1000 ∧ (speed.toInt * 16).tdiv 1000 ≤ 471860 :=
      tdiv_between (by decide) (by omega) (by omega)
    rw [← step] at above below ⊢
    exact add32_yields _ _ ⟨by omega, by omega⟩
  have x := axis velocity.vx place.x limited.1 ⟨left, right⟩
  have y := axis velocity.vy place.y limited.2 ⟨top, bottom⟩
  refine ⟨?_, x.exact, y.exact⟩
  unfold TrappingSimulation.travel
  rw [safe_bind (integrate_yields velocity.vx).safe, safe_bind (integrate_yields velocity.vy).safe,
    safe_bind x.safe, safe_bind y.safe]
  rfl

theorem clamp_to_map_yields (place : TransformComponent) :
    TrappingSimulation.clampToMap {} place = some (clampToMap {} place) ∧
      OnMap {} (clampToMap {} place) := by
  refine ⟨rfl, ?_⟩
  have edge : (mapWidthFixed {} - 1).toInt = 10239999 := by decide
  have bottom : (mapHeightFixed {} - 1).toInt = 10239999 := by decide
  rw [on_map_iff]
  unfold clampToMap
  dsimp only
  rw [clamp_toInt, clamp_toInt, edge, bottom, Int32.toInt_zero]
  split_ifs <;> omega

/-! Spawns. -/

theorem tile_toInt (tile : UInt32) (small : tile.toNat < 20) :
    tile.toInt32.toInt = tile.toNat := by
  have cast : tile.toInt32.toInt = tile.toBitVec.toInt := rfl
  rw [cast, BitVec.toInt_eq_toNat_of_lt]
  · rfl
  · have same : tile.toBitVec.toNat = tile.toNat := rfl
    omega

theorem spawn_coordinate_yields (tile : UInt32) (small : tile.toNat < 20) :
    TrappingSimulation.spawnCoordinate {} tile =
      some (pixelsToFixed ((10 + tile.toInt32) * 128)) ∧
    0 ≤ (pixelsToFixed ((10 + tile.toInt32) * 128)).toInt ∧
      (pixelsToFixed ((10 + tile.toInt32) * 128)).toInt < 10240000 := by
  have ten : (10 : Int32).toInt = 10 := by decide
  have size : (128 : Int32).toInt = 128 := by decide
  have one : kFixedOne.toInt = 1000 := by decide
  have shifted := add32_yields 10 tile.toInt32
    (by rw [tile_toInt tile small, ten]; exact ⟨by omega, by omega⟩)
  rw [tile_toInt tile small, ten] at shifted
  have pixel := mul32_yields (10 + tile.toInt32) 128
    (by rw [shifted.exact, size]; exact ⟨by omega, by omega⟩)
  rw [shifted.exact, size] at pixel
  have fixed := mul32_yields ((10 + tile.toInt32) * 128) kFixedOne
    (by rw [pixel.exact, one]; exact ⟨by omega, by omega⟩)
  rw [pixel.exact, one] at fixed
  refine ⟨?_, ?_⟩
  · unfold TrappingSimulation.spawnCoordinate
    rw [safe_bind shifted.safe, safe_bind pixel.safe]
    exact fixed.safe
  · have value : (pixelsToFixed ((10 + tile.toInt32) * 128)).toInt =
        (10 + (tile.toNat : Int)) * 128 * 1000 := fixed.exact
    rw [value]
    omega

theorem spawn_yields (clientId : ClientId) :
    TrappingSimulation.spawnTransformForClient {} clientId =
        some (spawnTransformForClient {} clientId) ∧
      OnMap {} (spawnTransformForClient {} clientId) := by
  have xSmall : (clientId % 20).toNat < 20 := by
    rw [UInt32.toNat_mod]
    exact Nat.mod_lt _ (by decide)
  have ySmall : (clientId / 20 % 20).toNat < 20 := by
    rw [UInt32.toNat_mod]
    exact Nat.mod_lt _ (by decide)
  obtain ⟨xSafe, left, right⟩ := spawn_coordinate_yields (clientId % 20) xSmall
  obtain ⟨ySafe, top, bottom⟩ := spawn_coordinate_yields (clientId / 20 % 20) ySmall
  constructor
  · unfold TrappingSimulation.spawnTransformForClient
    rw [safe_bind xSafe, safe_bind ySafe]
    rfl
  · exact (on_map_iff _).mpr ⟨⟨left, right⟩, top, bottom⟩

/-! Projectiles. -/

theorem default_weapon_cases {type : WeaponType} {weapon : WeaponDefinition}
    (found : findWeaponDefinition ({} : SimulationConfig).weapons type = some weapon) :
    weapon = defaultWeaponDefinition type := by
  cases type with
  | none => exact (Option.some.inj found).symm
  | bow => exact (Option.some.inj found).symm

/-- The speed of a default weapon for each unit of aim. -/
def speedPerAim : WeaponType → Int
  | .none => 0
  | .bow => 900

theorem default_speed (type : WeaponType) :
    (defaultWeaponDefinition type).projectileSpeedPerSecond.toInt64.toInt =
      speedPerAim type * 1000 := by
  cases type <;> decide

theorem speed_per_aim_bounds (type : WeaponType) : 0 ≤ speedPerAim type ∧ speedPerAim type ≤ 900 := by
  cases type <;> decide

theorem projectile_velocity_yields (type : WeaponType) (aim : Int16) :
    Yields32 (TrappingSimulation.projectileVelocity (defaultWeaponDefinition type) aim)
      (((defaultWeaponDefinition type).projectileSpeedPerSecond.toInt64 * aim.toInt64) /
        kFixedOne.toInt64).toInt32 (speedPerAim type * aim.toInt) := by
  have low := aim.le_toInt
  have high := aim.toInt_lt
  obtain ⟨still, fast⟩ := speed_per_aim_bounds type
  have above : -29491200 ≤ speedPerAim type * aim.toInt := by nlinarith
  have below : speedPerAim type * aim.toInt ≤ 29491200 := by nlinarith
  have product : speedPerAim type * 1000 * aim.toInt = speedPerAim type * aim.toInt * 1000 := by
    ring
  have factor : (speedPerAim type * 1000 * aim.toInt).tdiv 1000 = speedPerAim type * aim.toInt := by
    rw [product]
    exact Int.mul_tdiv_cancel _ (by decide)
  have yields := mul_div32_yields (default_speed type) aim.toInt_toInt64
    (show kFixedOne.toInt64.toInt = 1000 by decide) (by decide)
    (by rw [product]; exact ⟨by omega, by omega⟩) (by rw [factor]; exact ⟨by omega, by omega⟩)
  rw [factor] at yields
  exact yields

/-! The bounds of a row. -/

structure InBounds (row : Components) : Prop where
  apart : row.player.isSome → row.projectile = none
  placed : ∃ place, row.transform = some place ∧ OnMap {} place
  moving : ∃ velocity, row.velocity = some velocity ∧ Limited kWidestVelocity velocity ∧
    (row.player.isSome → Limited 360000 velocity)
  healthy : ∀ player, row.player = some player →
    (0 ≤ player.health.toInt ∧ player.health.toInt ≤ 100) ∧ player.maxHealth = 100

theorem InBounds.congr {before after : Components} (bounds : InBounds before)
    (player : after.player = before.player) (projectile : after.projectile = before.projectile)
    (transform : after.transform = before.transform)
    (velocity : after.velocity = before.velocity) : InBounds after := by
  obtain ⟨apart, placed, moving, healthy⟩ := bounds
  constructor
  all_goals simp only [player, projectile, transform, velocity]
  all_goals assumption

theorem still_limited {limit : Int} (nonnegative : 0 ≤ limit) : Limited limit {} := by
  have still : (0 : Fixed).toInt = 0 := rfl
  unfold Limited
  rw [still]
  omega

theorem limited_widest {velocity : VelocityComponent} (limited : Limited 360000 velocity) :
    Limited kWidestVelocity velocity :=
  limited.wider (by decide)

theorem apply_inputs_in_bounds (timeMs : TimestampMs) (packets : List ClientInputPacket)
    {row : Components} (bounds : InBounds row) : InBounds (applyInputs {} timeMs packets row) := by
  obtain ⟨intent, aim, weapon, applied⟩ := apply_inputs_changes {} timeMs packets row
  rw [applied]
  exact bounds.congr rfl rfl rfl rfl

theorem integrate_in_bounds {row : Components} (bounds : InBounds row)
    (isPlayer : row.player.isSome) : InBounds (integrateMovement {} row).1 := by
  obtain ⟨apart, ⟨place, isPlace, onMap⟩, ⟨velocity, isVelocity, _, limited⟩, healthy⟩ := bounds
  unfold integrateMovement
  rw [isPlace, isVelocity]
  split
  · next identity transform speed _ isTransform isSpeed =>
      cases isTransform
      cases isSpeed
      split
      · exact ⟨apart, ⟨place, rfl, onMap⟩, ⟨{}, rfl, still_limited (by decide),
          fun _ => still_limited (by decide)⟩, healthy⟩
      · have steered := (steer_yields row.inputIntent velocity (limited isPlayer)).2
        exact ⟨apart, ⟨_, rfl, (clamp_to_map_yields _).2⟩, ⟨_, rfl, limited_widest steered,
          fun _ => steered⟩, healthy⟩
  · exact ⟨apart, ⟨place, isPlace, onMap⟩, ⟨velocity, isVelocity,
      limited_widest (limited isPlayer), limited⟩, healthy⟩

theorem moved_in_bounds (sim : GameSimulation) (configured : sim.config = {}) (entity : Entity)
    {row : Components} (bounds : InBounds row) : InBounds (movedRow sim entity row) := by
  have applied := apply_inputs_in_bounds sim.timeMs (inputsFor sim entity) bounds
  unfold movedRow
  dsimp only
  rw [configured]
  split
  · next isPlayer =>
      exact (integrate_in_bounds applied isPlayer).congr rfl rfl rfl rfl
  · exact applied.congr rfl rfl rfl rfl

theorem projectile_in_bounds (timeMs : TimestampMs) (id : NetworkEntityId)
    (request : ProjectileRequest) (type : WeaponType)
    (isDefault : request.weapon = defaultWeaponDefinition type)
    (onMap : OnMap {} request.transform) : InBounds (projectileRow timeMs id request) := by
  have wide (aim : Int16) : -kWidestVelocity ≤ speedPerAim type * aim.toInt ∧
      speedPerAim type * aim.toInt ≤ kWidestVelocity := by
    have low := aim.le_toInt
    have high := aim.toInt_lt
    obtain ⟨still, fast⟩ := speed_per_aim_bounds type
    unfold kWidestVelocity
    exact ⟨by nlinarith, by nlinarith⟩
  have x := (projectile_velocity_yields type request.aim.x).exact
  have y := (projectile_velocity_yields type request.aim.y).exact
  rw [← isDefault] at x y
  refine ⟨by simp [projectileRow], ⟨request.transform, rfl, onMap⟩, ⟨_, rfl, ⟨?_, ?_⟩, ?_⟩, ?_⟩
  · rw [x]
    exact wide request.aim.x
  · rw [y]
    exact wide request.aim.y
  · simp [projectileRow]
  · simp [projectileRow]

theorem fly_in_bounds {timeMs : TimestampMs} {row : Components} {projectile : ProjectileComponent}
    {transform : TransformComponent} (bounds : InBounds row)
    (flown : (fly {} row).transform = some transform)
    (stays : projectileGone {} timeMs projectile transform = false) : InBounds (fly {} row) := by
  obtain ⟨apart, _, ⟨velocity, isVelocity, wide, limited⟩, healthy⟩ := bounds
  obtain ⟨later, isFlown, _⟩ := fly_changes {} row
  rw [isFlown] at flown ⊢
  refine ⟨apart, ⟨transform, flown, ?_⟩, ⟨velocity, isVelocity, wide, limited⟩, healthy⟩
  -- What has not left the map is on it.
  unfold projectileGone at stays
  simp only [Bool.or_eq_false_iff, decide_eq_false_iff_not, Int32.not_lt, Int32.not_le] at stays
  exact ⟨⟨stays.1.1.1.2, stays.1.2⟩, stays.1.1.2, stays.2⟩

theorem damage_bounds (projectile : ProjectileComponent) :
    0 ≤ (projectileDamage {} projectile).toInt ∧ (projectileDamage {} projectile).toInt ≤ 35 := by
  unfold projectileDamage
  split
  · next weapon found =>
      rw [default_weapon_cases found]
      cases projectile.sourceWeapon with
      | none => decide
      | bow => decide
  · decide

theorem damage_in_bounds (timeMs : TimestampMs) (projectileId : NetworkEntityId)
    (projectile : ProjectileComponent) {row : Components} (bounds : InBounds row) :
    InBounds (damagePlayer {} timeMs projectileId projectile row).1 := by
  obtain ⟨apart, placed, moving, healthy⟩ := bounds
  obtain ⟨harmless, weak⟩ := damage_bounds projectile
  unfold damagePlayer
  split
  · next identity player _ isPlayer =>
      have hurt : (0 ≤ (max 0 (player.health - projectileDamage {} projectile)).toInt ∧
          (max 0 (player.health - projectileDamage {} projectile)).toInt ≤ 100) ∧
          player.maxHealth = 100 := by
        obtain ⟨⟨least, most⟩, full⟩ := healthy player isPlayer
        rw [CombatAccounts.health_after least harmless]
        exact ⟨by omega, full⟩
      have wasPlayer : row.player.isSome := by
        rw [isPlayer]
        rfl
      have still : ∃ velocity, row.velocity = some velocity ∧ Limited kWidestVelocity velocity ∧
          ∀ later : Option PlayerComponent, later.isSome → Limited 360000 velocity := by
        obtain ⟨velocity, isVelocity, wide, limited⟩ := moving
        exact ⟨velocity, isVelocity, wide, fun _ _ => limited wasPlayer⟩
      obtain ⟨velocity, isVelocity, wide, limited⟩ := still
      dsimp only
      split
      · refine ⟨fun _ => apart wasPlayer, placed, ⟨velocity, isVelocity, wide, limited _⟩, ?_⟩
        intro later isLater
        cases isLater
        exact hurt
      · refine ⟨fun _ => apart wasPlayer, placed, ⟨velocity, isVelocity, wide, limited _⟩, ?_⟩
        intro later isLater
        cases isLater
        exact hurt
  · exact ⟨apart, placed, moving, healthy⟩

theorem respawn_in_bounds (timeMs : TimestampMs) {row : Components} (bounds : InBounds row) :
    InBounds (respawnPlayer {} timeMs row).1 := by
  unfold respawnPlayer
  split
  · next identity player _ isPlayer =>
      split
      · exact bounds
      · refine ⟨fun _ => bounds.apart (by rw [isPlayer]; rfl), ⟨_, rfl, (spawn_yields _).2⟩,
          ⟨{}, rfl, still_limited (by decide), fun _ => still_limited (by decide)⟩, ?_⟩
        intro later isLater
        cases isLater
        have full := (bounds.healthy player isPlayer).2
        exact ⟨by dsimp only; rw [full]; decide, full⟩
  · exact bounds

theorem player_in_bounds (id : NetworkEntityId) (clientId : ClientId) :
    InBounds (playerRow {} id clientId (spawnTransformForClient {} clientId).x
      (spawnTransformForClient {} clientId).y) := by
  refine ⟨fun _ => rfl, ⟨_, rfl, (spawn_yields clientId).2⟩, ⟨{}, rfl, still_limited (by decide),
    fun _ => still_limited (by decide)⟩, ?_⟩
  intro player isPlayer
  cases isPlayer
  exact ⟨(by decide : 0 ≤ (100 : Int32).toInt ∧ (100 : Int32).toInt ≤ 100), rfl⟩

theorem in_bounds_rule (sim : GameSimulation) (call : ServerCall) (configured : sim.config = {}) :
    CallRule InBounds sim call := by
  cases call with
  | login command =>
      unfold CallRule
      rw [configured]
      exact player_in_bounds
  | input packet => trivial
  | tick order =>
      have config : (advanceClock sim).config = {} := configured
      unfold CallRule
      generalize advanceClock sim = start at config
      constructor
      case moves => exact fun entity row _ bounds => moved_in_bounds start config entity bounds
      case finishes =>
        intro row bounds
        obtain ⟨weapon, finished⟩ := finish_warmup_changes start.config start.timeMs row
        rw [finished]
        exact bounds.congr rfl rfl rfl rfl
      case spawns =>
        intro entity row request id _ bounds requested
        obtain ⟨place, isPlace, onMap⟩ := (moved_in_bounds start config entity bounds).placed
        obtain ⟨_, _, isTransform, _, _, weapon, _, _, found⟩ := request_of_row requested
        rw [config] at found
        rw [isPlace] at isTransform
        cases isTransform
        exact projectile_in_bounds start.timeMs id request weapon.type
          (default_weapon_cases found) onMap
      case flies =>
        rw [config]
        exact fun row projectile transform bounds _ flown stays => fly_in_bounds bounds flown stays
      case strikes =>
        rw [config]
        exact fun projectileId projectile row => damage_in_bounds start.timeMs projectileId projectile
      case respawns =>
        rw [config]
        exact fun row => respawn_in_bounds start.timeMs

/-- Every row of every run is within the bounds. -/
theorem run_in_bounds (calls : List ServerCall) : EveryRow InBounds (serverRun {} calls) :=
  server_run_every_row {} in_bounds_rule calls

/-! How far a tick moves a player. -/

/-- The way at full speed in one tick. -/
def kWayPerTick : Int :=
  ({} : SimulationConfig).maxMoveSpeedPerSecond.toInt *
    ({} : SimulationConfig).tickDurationMs.toNat / 1000

/-- At most `way` apart on each axis. -/
def Within (way : Int) (place later : TransformComponent) : Prop :=
  |later.x.toInt - place.x.toInt| ≤ way ∧ |later.y.toInt - place.y.toInt| ≤ way

theorem within_self (place : TransformComponent) : Within kWayPerTick place place := by
  unfold Within
  simp only [sub_self, abs_zero]
  decide

/-- Cutting to the map does not lengthen a step from a position on it. -/
theorem step_within {velocity : VelocityComponent} {place : TransformComponent}
    (limited : Limited 360000 velocity) (onMap : OnMap {} place) :
    Within kWayPerTick place (clampToMap {} (travel {} velocity place)) := by
  obtain ⟨_, x, y⟩ := travel_yields velocity place (limited_widest limited) onMap
  obtain ⟨⟨left, right⟩, top, bottom⟩ := (on_map_iff place).mp onMap
  have edge : (mapWidthFixed {} - 1).toInt = 10239999 := by decide
  have floor : (mapHeightFixed {} - 1).toInt = 10239999 := by decide
  have way : kWayPerTick = 5760 := by decide
  obtain ⟨xLow, xHigh⟩ : -5760 ≤ (velocity.vx.toInt * 16).tdiv 1000 ∧
      (velocity.vx.toInt * 16).tdiv 1000 ≤ 5760 :=
    tdiv_between (by decide) (by have := limited.1; omega) (by have := limited.1; omega)
  obtain ⟨yLow, yHigh⟩ : -5760 ≤ (velocity.vy.toInt * 16).tdiv 1000 ∧
      (velocity.vy.toInt * 16).tdiv 1000 ≤ 5760 :=
    tdiv_between (by decide) (by have := limited.2; omega) (by have := limited.2; omega)
  unfold Within clampToMap
  dsimp only
  rw [clamp_toInt, clamp_toInt, edge, floor, Int32.toInt_zero, x, y, way, abs_le, abs_le]
  split_ifs <;> omega

theorem integrate_within {row : Components} (bounds : InBounds row) (isPlayer : row.player.isSome)
    {place : TransformComponent} (isPlace : row.transform = some place) :
    ∃ later, (integrateMovement {} row).1.transform = some later ∧
      Within kWayPerTick place later := by
  obtain ⟨_, ⟨other, isOther, onMap⟩, ⟨velocity, isVelocity, _, limited⟩, _⟩ := bounds
  rw [isPlace] at isOther
  cases isOther
  unfold integrateMovement
  rw [isPlace, isVelocity]
  split
  · next identity transform speed _ isTransform isSpeed =>
      cases isTransform
      cases isSpeed
      split
      · exact ⟨place, rfl, within_self place⟩
      · exact ⟨_, rfl, step_within (steer_yields _ _ (limited isPlayer)).2 onMap⟩
  · exact ⟨place, isPlace, within_self place⟩

theorem moved_within (sim : GameSimulation) (configured : sim.config = {}) (entity : Entity)
    {row : Components} (bounds : InBounds row) (isPlayer : row.player.isSome)
    {place : TransformComponent} (isPlace : row.transform = some place) :
    ∃ later, (movedRow sim entity row).transform = some later ∧ Within kWayPerTick place later := by
  have applied := apply_inputs_in_bounds sim.timeMs (inputsFor sim entity) bounds
  obtain ⟨intent, aim, weapon, isApplied⟩ :=
    apply_inputs_changes {} sim.timeMs (inputsFor sim entity) row
  unfold movedRow
  dsimp only
  rw [configured]
  rw [isApplied] at applied ⊢
  rw [if_pos isPlayer]
  exact integrate_within applied isPlayer isPlace

/-- A tick moves a player by at most the way at full speed, or respawns it. -/
theorem tick_within (order : LoopOrder) (sim : GameSimulation) (configured : sim.config = {})
    {entity : Entity} {row : Components} (present : sim.registry.get? entity = some row)
    (bounds : InBounds row) (isPlayer : row.player.isSome) :
    ∃ later place place', (tickFixed order sim).registry.get? entity = some later ∧
      row.transform = some place ∧ later.transform = some place' ∧
      (Within kWayPerTick place place' ∨
        ∃ added event, Queued sim (tickFixed order sim) added ∧
          .playerRespawned event ∈ added ∧ row.identity = some { id := event.entityId } ∧
          event.x = place'.x ∧ event.y = place'.y) := by
  obtain ⟨place, isPlace, _⟩ := bounds.placed
  have started : (advanceClock sim).registry.get? entity = some row := present
  have config : (advanceClock sim).config = {} := configured
  have quiet : Queued sim (advanceClock sim) [] := by simp [Queued, advanceClock]
  unfold tickFixed
  generalize advanceClock sim = start at started config quiet ⊢
  obtain ⟨reached, isReached, near⟩ := moved_within start config entity bounds isPlayer isPlace
  obtain ⟨transform, velocity, aim, weapon, isMoved, _⟩ := moved_row_changes start entity row
  obtain ⟨first, queuedFirst⟩ := (process_inputs_queues order start).appends
  -- Between its move and the respawns nothing moves the player.
  obtain ⟨second, queuedSecond, struck, isStruck, fared⟩ :=
    moved_fares order start started (bounds.apart isPlayer)
  generalize processProjectiles order (processWeaponWarmups order (processInputs order start)) =
    flown at queuedSecond isStruck ⊢
  have isLater := process_respawns_row order flown entity
  have queued := (quiet.trans (queuedFirst.trans queuedSecond)).trans
    (for_each_queued (respawnPlayer flown.config flown.timeMs) order .respawns inRespawnView flown)
  rw [isStruck, Option.map_some] at isLater
  have standing : struck.transform = some reached := fared.transform.trans isReached
  by_cases viewed : inRespawnView struck
  · rw [if_pos viewed] at isLater
    rcases respawn_cases flown.config flown.timeMs struck with
      ⟨rests, _⟩ | ⟨identity, player, named, isPlayer', _, _, reborn⟩
    · rw [rests] at isLater
      exact ⟨struck, place, reached, isLater, isPlace, standing, Or.inl near⟩
    · rw [reborn] at isLater
      refine ⟨_, place, _, isLater, isPlace, rfl, Or.inr ⟨_, respawnedEvent flown.config identity.id
        player, queued, ?_, ?_, rfl, rfl⟩⟩
      · apply List.mem_append_right
        refine List.mem_flatMap.mpr ⟨entity, ?_, ?_⟩
        · exact (flown.registry.mem_view order .respawns _ entity).mpr ⟨struck, isStruck, viewed⟩
        · rw [isStruck, Option.map_some, Option.getD_some, reborn]
          exact List.mem_cons_self
      · have sameId : struck.identity = row.identity := by
          rw [fared.identity, isMoved]
        rw [← sameId]
        exact named
  · rw [if_neg viewed] at isLater
    exact ⟨struck, place, reached, isLater, isPlace, standing, Or.inl near⟩

end Brawololo.MovementBounds
