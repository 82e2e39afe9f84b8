import Brawololo.CalmTicks
import Brawololo.RestingPlayers

/-!
A crowd that stands where it was born and shoots. Its players are more than a
hit radius apart, and its projectiles fly too slowly to leave their owners' tiles:
no stage of a tick moves a player, and none ends a projectile.
-/

namespace Brawololo.StandingCrowd

open GameTypes EntityStore Simulation Simulation.GameSimulation SimulationStages CombatTruth
open EntityIdentity MovementBounds TrappingArithmetic RestingPlayers PlayerMotion CalmTicks
open SimulationSnapshots AreaOfInterest WeaponStages ProjectileLifecycle

/-! Places. -/

/-- The most players of a default server. -/
def kSeats : Nat := 256

def clientAt (seat : Nat) : ClientId := UInt32.ofNat (seat + 1)

def tileX (seat : Nat) : Nat := 10 + (seat + 1) % 20

def tileY (seat : Nat) : Nat := 10 + (seat + 1) / 20 % 20

/-- The place is that far to the right of where the seat's player is born. -/
structure Beside (seat drift : Nat) (place : TransformComponent) : Prop where
  x : place.x.toInt = 128000 * (tileX seat : Int) + drift
  y : place.y.toInt = 128000 * (tileY seat : Int)

def home (seat : Nat) : TransformComponent := spawnTransformForClient {} (clientAt seat)

theorem home_beside {seat : Nat} (seated : seat < kSeats) : Beside seat 0 (home seat) := by
  have places : ∀ seat < kSeats,
      (home seat).x.toInt = 128000 * (tileX seat : Int) ∧
        (home seat).y.toInt = 128000 * (tileY seat : Int) := by
    decide +kernel
  obtain ⟨x, y⟩ := places seat seated
  exact ⟨by rw [x]; rfl, y⟩

/-- A projectile drifts less than a tile. -/
def kDrift : Nat := 2000

section Places

variable {seat other drift : Nat} {place : TransformComponent}

theorem tiles_apart (seated : seat < kSeats) (isOther : other < kSeats) (apart : seat ≠ other) :
    tileX seat ≠ tileX other ∨ tileY seat ≠ tileY other := by
  unfold tileX tileY kSeats at *
  omega

theorem beside_on_map (short : drift ≤ kDrift) (beside : Beside seat drift place) :
    OnMap {} place := by
  rw [on_map_iff, beside.x, beside.y]
  unfold tileX tileY kDrift at *
  omega

/-- Places that are far apart on one axis are not close enough for a hit. -/
theorem far_misses {left right : TransformComponent} (leftOn : OnMap {} left)
    (rightOn : OnMap {} right)
    (far : 42000 < |left.x.toInt - right.x.toInt| ∨ 42000 < |left.y.toInt - right.y.toInt|) :
    closeEnoughForHit left right = false := by
  obtain ⟨⟨_, _⟩, _, _⟩ := (on_map_iff left).mp leftOn
  obtain ⟨⟨_, _⟩, _, _⟩ := (on_map_iff right).mp rightOn
  -- The square of a difference of two places is exact, and large when they are far apart.
  have axis (first second : Fixed) (firstOn : 0 ≤ first.toInt ∧ first.toInt < 10240000)
      (secondOn : 0 ≤ second.toInt ∧ second.toInt < 10240000) :
      ∃ square : Int,
        ((first.toInt64 - second.toInt64) * (first.toInt64 - second.toInt64)).toInt = square ∧
        0 ≤ square ∧ square < 104857600000000 ∧
        (42000 < |first.toInt - second.toInt| → 1764000000 < square) := by
    have difference := (@sub64_yields first.toInt64 second.toInt64 (by
      rw [Int32.toInt_toInt64, Int32.toInt_toInt64]
      exact ⟨by omega, by omega⟩)).exact
    rw [Int32.toInt_toInt64, Int32.toInt_toInt64] at difference
    have near : |first.toInt - second.toInt| < 10240000 := by
      rw [abs_lt]
      omega
    generalize first.toInt - second.toInt = way at difference near ⊢
    have nonnegative := abs_nonneg way
    have small : way * way < 104857600000000 := by
      rw [← abs_mul_abs_self]
      nlinarith
    have product := (@mul64_yields (first.toInt64 - second.toInt64)
      (first.toInt64 - second.toInt64) (by
        rw [difference]
        exact ⟨by nlinarith, by omega⟩)).exact
    rw [difference] at product
    refine ⟨way * way, product, mul_self_nonneg way, small, ?_⟩
    intro isFar
    rw [← abs_mul_abs_self]
    nlinarith
  obtain ⟨xSquare, isX, xLeast, xMost, xFar⟩ := axis left.x right.x ⟨by assumption, by assumption⟩
    ⟨by assumption, by assumption⟩
  obtain ⟨ySquare, isY, yLeast, yMost, yFar⟩ := axis left.y right.y ⟨by assumption, by assumption⟩
    ⟨by assumption, by assumption⟩
  have sum := (@add64_yields
    ((left.x.toInt64 - right.x.toInt64) * (left.x.toInt64 - right.x.toInt64))
    ((left.y.toInt64 - right.y.toInt64) * (left.y.toInt64 - right.y.toInt64))
    (by rw [isX, isY]; exact ⟨by omega, by omega⟩)).exact
  have bound : (kHitRadius.toInt64 * kHitRadius.toInt64).toInt = 1764000000 := by decide
  unfold closeEnoughForHit
  dsimp only
  rw [decide_eq_false_iff_not, Int64.le_iff_toInt_le, sum, isX, isY, bound]
  rcases far with alongX | alongY
  · have := xFar alongX
    omega
  · have := yFar alongY
    omega

/-- A projectile near its owner's place hits no other player. -/
theorem beside_misses (seated : seat < kSeats) (isOther : other < kSeats) (apart : seat ≠ other)
    (short : drift ≤ kDrift) (beside : Beside seat drift place) :
    closeEnoughForHit place (home other) = false := by
  have homeBeside := home_beside isOther
  refine far_misses (beside_on_map short beside) (beside_on_map (by decide) homeBeside) ?_
  rw [beside.x, beside.y, homeBeside.x, homeBeside.y, lt_abs, lt_abs]
  unfold kDrift at short
  rcases tiles_apart seated isOther apart with alongX | alongY
  · omega
  · omega

/-- Along one axis of the map a chunk takes 1024 pixels. -/
theorem chunk_value {position : Fixed} (inside : 0 ≤ position.toInt ∧ position.toInt < 10240000) :
    (clampFixed (fixedToPixels position) 0 (80 * 128 - 1) / (128 * 8)).toInt =
      position.toInt / 1000 / 1024 := by
  have divide (value size : Int32) (extent : Int) (isSize : size.toInt = extent)
      (nonnegative : 0 ≤ value.toInt) : (value / size).toInt = value.toInt / extent := by
    have notMin : value ≠ Int32.minValue := by
      rintro rfl
      exact absurd nonnegative (by decide)
    rw [Int32.toInt_div_of_ne_left _ _ notMin, isSize, Int.tdiv_eq_ediv_of_nonneg nonnegative]
  have pixel : (fixedToPixels position).toInt = position.toInt / 1000 :=
    divide position kFixedOne 1000 (by decide) inside.1
  have edge : (80 * 128 - 1 : Int32).toInt = 10239 := by decide
  have clamped : clampFixed (fixedToPixels position) 0 (80 * 128 - 1) = fixedToPixels position := by
    rw [← Int32.toInt_inj, clamp_toInt, edge, pixel, Int32.toInt_zero]
    split_ifs <;> omega
  rw [clamped, divide _ (128 * 8) 1024 (by decide) (by rw [pixel]; omega), pixel]

/-- Every place of the crowd is in the area of interest of the seventh client. -/
theorem beside_in_area (short : drift ≤ kDrift) (seated : seat < kSeats)
    (beside : Beside seat drift place) :
    Near {} (chunkForPosition {} (home 6).x (home 6).y) (chunkForPosition {} place.x place.y) := by
  have homeBeside := home_beside (show 6 < kSeats by decide)
  have axis := (on_map_iff _).mp (beside_on_map (by decide) homeBeside)
  have inside := (on_map_iff _).mp (beside_on_map short beside)
  have radius : ({} : MapConfig).interestRadiusChunks.toInt = 1 := rfl
  constructor
  · rw [radius, show (chunkForPosition {} (home 6).x (home 6).y).x.toInt = _ from
      chunk_value axis.1, show (chunkForPosition {} place.x place.y).x.toInt = _ from
      chunk_value inside.1, homeBeside.x, beside.x, abs_le]
    unfold tileX kDrift at *
    omega
  · rw [radius, show (chunkForPosition {} (home 6).x (home 6).y).y.toInt = _ from
      chunk_value axis.2, show (chunkForPosition {} place.x place.y).y.toInt = _ from
      chunk_value inside.2, homeBeside.y, beside.y, abs_le]
    unfold tileY kSeats at *
    omega

end Places

/-! Rows. -/

/-- A player that has not moved since it was born. -/
def standerRow (seat : Nat) (aim : AimComponent) (weapon : WeaponStateComponent) : Components :=
  { playerRow {} (idOf seat) (clientAt seat) (home seat).x (home seat).y with
    aim := some aim
    weapon := some weapon }

/-- The input of a seat: fire, with the aim that makes the slowest projectile. -/
def firePacket (seat : Nat) (sequence : CommandSequence) : ClientInputPacket :=
  { header := { clientId := clientAt seat, sequence := sequence },
    input := { aimX := 1, fire := true } }

/-- What the seat's player requests when its warmup is over. -/
def bowRequest (seat : Nat) : ProjectileRequest :=
  { ownerId := idOf seat, transform := home seat, aim := { x := 1, y := 0 },
    weapon := defaultWeaponDefinition .bow }

/-- The end of the shortest life of a projectile. -/
def kLifetimeMs : Nat := 2000

/-- A projectile of one of the players, that flies slowly and is not old. -/
structure Shot (drift : Nat) (row : Components) : Prop where
  named : row.identity.isSome
  noPlayer : row.player = none
  unarmed : row.weapon = none
  slow : row.velocity = some { vx := 900, vy := 0 }
  near : ∃ seat < kSeats, ∃ way ≤ drift, ∃ place, row.transform = some place ∧
    Beside seat way place ∧ ∃ projectile, row.projectile = some projectile ∧
      projectile.ownerId = idOf seat ∧ kLifetimeMs ≤ projectile.expiresAtMs.toNat

/-- Players that all stand where they were born, in a phase of their weapons, and
their projectiles. -/
structure Crowd (players drift : Nat) (phase : AimComponent → WeaponStateComponent → Prop)
    (sim : GameSimulation) : Prop where
  configured : sim.config = {}
  stands : ∀ seat < players, ∃ aim weapon,
    sim.registry.get? seat = some (standerRow seat aim weapon) ∧ phase aim weapon
  shots : ∀ entity row, players ≤ entity → sim.registry.get? entity = some row → Shot drift row
  live : ∀ entity < sim.registry.created, (sim.registry.get? entity).isSome

/-- The weapon is not in use. -/
def Ready (_ : AimComponent) (weapon : WeaponStateComponent) : Prop :=
  weapon.type = .bow ∧ weapon.warming = false

/-- The bow is drawn until a time, with the aim that makes the slowest projectile. -/
def Drawn (completesAtMs : Nat) (aim : AimComponent) (weapon : WeaponStateComponent) :
    Prop :=
  aim = { x := 1, y := 0 } ∧ weapon.type = .bow ∧ weapon.warming = true ∧
    weapon.warmupCompletesAtMs.toNat = completesAtMs

theorem bow_found {type : WeaponType} (isBow : type = .bow) :
    findWeaponDefinition ({} : SimulationConfig).weapons type =
      some (defaultWeaponDefinition .bow) := by
  rw [isBow]
  rfl

theorem home_fixed (seat : Nat) : clampToMap {} (travel {} {} (home seat)) = home seat := by
  have still : steer {} none {} = {} := by decide
  have inRange : InRange (home seat, {}) :=
    ⟨(spawn_yields (clientAt seat)).2, still_limited (by decide)⟩
  have fixed := congrArg Prod.fst (rest_is_fixed inRange)
  unfold coast integrated at fixed
  rw [still] at fixed
  exact fixed

section Stander

variable (seat : Nat) (aim : AimComponent) (weapon : WeaponStateComponent)

theorem stander_moves : Moves (standerRow seat aim weapon) (home seat, {}) :=
  ⟨rfl, rfl, rfl, rfl, rfl⟩

/-- A player without speed stays where it was born. -/
theorem stander_stays {intent : Option InputIntentComponent} (still : steer {} intent {} = {}) :
    clearIntent (integrateMovement {}
      { standerRow seat aim weapon with inputIntent := intent }).1 =
      standerRow seat aim weapon := by
  have stands : Moves { standerRow seat aim weapon with inputIntent := intent } (home seat, {}) :=
    ⟨rfl, rfl, rfl, rfl, rfl⟩
  have moves := intent_moves {} stands
  obtain ⟨transform, velocity, moved, _, _⟩ := integrate_changes {}
    { standerRow seat aim weapon with inputIntent := intent }
  rw [moved] at moves ⊢
  have placed : transform = some (home seat) := by
    refine moves.placed.trans ?_
    dsimp only [integrated]
    rw [still, home_fixed]
  have moving : velocity = some {} := by
    refine moves.moving.trans ?_
    dsimp only [integrated]
    rw [still]
  subst placed moving
  rfl

theorem stander_waits {sim : GameSimulation} (configured : sim.config = {})
    (noInput : inputsFor sim seat = []) :
    movedRow sim seat (standerRow seat aim weapon) = standerRow seat aim weapon := by
  have still : steer {} none {} = {} := by decide
  unfold movedRow
  rw [noInput, configured]
  exact stander_stays seat aim weapon still

theorem stander_draws {sim : GameSimulation} (configured : sim.config = {})
    {sequence : CommandSequence} (input : inputsFor sim seat = [firePacket seat sequence])
    (ready : Ready aim weapon) :
    movedRow sim seat (standerRow seat aim weapon) =
      standerRow seat { x := 1, y := 0 }
        (startedWeapon sim.timeMs (defaultWeaponDefinition .bow) weapon) := by
  obtain ⟨isBow, idle⟩ := ready
  have applied : (applyInputToEntity {} sim.timeMs (firePacket seat sequence)
      (standerRow seat aim weapon)).1 =
      { standerRow seat { x := 1, y := 0 }
          (startedWeapon sim.timeMs (defaultWeaponDefinition .bow) weapon) with
        inputIntent := some (intentOf (firePacket seat sequence).input) } := by
    have armed : (takeIntent (firePacket seat sequence).input
        (standerRow seat aim weapon)).weapon = some weapon := rfl
    unfold applyInputToEntity
    rw [if_neg (by rw [(stander_moves seat aim weapon).living]; exact Bool.false_ne_true),
      if_pos (show (firePacket seat sequence).input.fire = true from rfl),
      start_warmup_starts {} sim.timeMs rfl armed (by rw [isBow]; decide) idle (bow_found isBow)]
    rfl
  have still : steer {} (some (intentOf { aimX := 1, fire := true })) {} = {} := by decide
  unfold movedRow
  rw [input, configured]
  dsimp only [applyInputs, List.foldl_cons, List.foldl_nil]
  rw [applied]
  exact stander_stays seat _ _ still

theorem stander_finishes (timeMs : TimestampMs) :
    (finishWarmup {} timeMs (standerRow seat aim weapon)).1 =
      standerRow seat aim (endedWeapon timeMs (standerRow seat aim weapon) weapon) := by
  have armed : (standerRow seat aim weapon).weapon = some weapon := rfl
  rw [finish_warmup_cases {} timeMs rfl armed]
  rfl

theorem stander_completes (timeMs : TimestampMs) :
    warmupComplete timeMs (standerRow seat aim weapon) weapon =
      (weapon.warming && decide (weapon.warmupCompletesAtMs ≤ timeMs)) := by
  unfold warmupComplete
  rw [(stander_moves seat aim weapon).living]
  rfl

/-- A bow that is still drawn stays so, one that is done is ready again. -/
theorem drawn_ends {completesAtMs : Nat} (drawn : Drawn completesAtMs aim weapon)
    (timeMs : TimestampMs) :
    (timeMs.toNat < completesAtMs →
      endedWeapon timeMs (standerRow seat aim weapon) weapon = weapon) ∧
    (completesAtMs ≤ timeMs.toNat →
      Ready aim (endedWeapon timeMs (standerRow seat aim weapon) weapon)) := by
  obtain ⟨_, isBow, warming, rfl⟩ := drawn
  unfold endedWeapon
  rw [(stander_moves seat aim weapon).living, stander_completes, warming, ← UInt64.le_iff_toNat_le,
    ← UInt64.lt_iff_toNat_lt]
  constructor
  · intro early
    rw [if_neg]
    simpa using early
  · intro due
    rw [if_pos (Or.inr (by simpa using due))]
    exact ⟨isBow, rfl⟩

/-- A player that finishes its warmup requests a projectile. -/
theorem stander_requests {completesAtMs : Nat} (drawn : Drawn completesAtMs aim weapon)
    {timeMs : TimestampMs} (due : completesAtMs ≤ timeMs.toNat) :
    projectileRequest {} timeMs (standerRow seat aim weapon) = some (bowRequest seat) := by
  obtain ⟨rfl, isBow, warming, rfl⟩ := drawn
  have complete :
      warmupComplete timeMs (standerRow seat { x := 1, y := 0 } weapon) weapon = true := by
    rw [← UInt64.le_iff_toNat_le] at due
    rw [stander_completes, warming]
    simpa using due
  have armed : (standerRow seat { x := 1, y := 0 } weapon).weapon = some weapon := rfl
  exact request_made rfl rfl rfl rfl armed complete (bow_found isBow) rfl

end Stander

/-! The stages of a tick. -/

section Stages

variable {players drift : Nat} {phase later : AimComponent → WeaponStateComponent → Prop}
variable {sim : GameSimulation}

theorem crowd_congr {after : GameSimulation} (crowd : Crowd players drift phase sim)
    (config : after.config = sim.config) (registry : after.registry = sim.registry) :
    Crowd players drift phase after := by
  obtain ⟨configured, stands, shots, live⟩ := crowd
  constructor
  case configured =>
    rw [config]
    exact configured
  case stands =>
    rw [registry]
    exact stands
  case shots =>
    rw [registry]
    exact shots
  case live =>
    rw [registry]
    exact live

/-- A crowd without projectiles takes one more player. -/
theorem create_player_crowd (crowd : Crowd players 0 Ready sim)
    (created : sim.registry.created = players) (counted : sim.nextNetworkId = idOf players) :
    Crowd (players + 1) 0 Ready
      (createPlayer sim (clientAt players) (home players).x (home players).y) := by
  have rows (entity : Entity) :
      (createPlayer sim (clientAt players) (home players).x (home players).y).registry.get?
        entity = if entity = players then some (standerRow players {} { type := .bow })
        else sim.registry.get? entity := by
    have newRow : playerRow sim.config sim.nextNetworkId (clientAt players)
        (home players).x (home players).y = standerRow players {} { type := .bow } := by
      rw [crowd.configured, counted]
      rfl
    rw [← newRow, ← created]
    exact Registry.get?_create _ _ _
  constructor
  case configured => exact crowd.configured
  case stands =>
    intro seat seated
    rw [rows]
    by_cases isNew : seat = players
    · rw [if_pos isNew, isNew]
      exact ⟨_, _, rfl, rfl, rfl⟩
    · rw [if_neg isNew]
      exact crowd.stands seat (by omega)
  case shots =>
    intro entity row isShot present
    have below : entity < sim.registry.created + 1 := Registry.get?_lt _ present
    rw [created] at below
    exact absurd isShot (Nat.not_le.mpr below)
  case live =>
    intro entity below
    rw [rows]
    by_cases isNew : entity = players
    · rw [if_pos isNew]
      rfl
    · rw [if_neg isNew]
      apply crowd.live entity
      rw [created]
      change entity < sim.registry.created + 1 at below
      rw [created] at below
      exact Nat.lt_of_le_of_ne (Nat.le_of_lt_succ below) isNew

/-- A crowd whose rows each took a step of a stage. -/
theorem crowd_of_rows {after : GameSimulation} {further : Nat}
    (crowd : Crowd players drift phase sim) (config : after.config = sim.config)
    (created : after.registry.created = sim.registry.created)
    (change : Entity → Components → Components)
    (rows : ∀ entity, after.registry.get? entity =
      (sim.registry.get? entity).map (change entity))
    (standers : ∀ seat < players, ∀ aim weapon, phase aim weapon → ∃ aim' weapon',
      change seat (standerRow seat aim weapon) = standerRow seat aim' weapon' ∧ later aim' weapon')
    (shots : ∀ entity row, sim.registry.get? entity = some row → Shot drift row →
      Shot further (change entity row)) :
    Crowd players further later after := by
  constructor
  case configured => exact config.trans crowd.configured
  case stands =>
    intro seat seated
    obtain ⟨aim, weapon, present, inPhase⟩ := crowd.stands seat seated
    obtain ⟨aim', weapon', changed, inLater⟩ := standers seat seated aim weapon inPhase
    refine ⟨aim', weapon', ?_, inLater⟩
    rw [rows, present, Option.map_some, changed]
  case shots =>
    intro entity row isShot present
    rw [rows] at present
    obtain ⟨found, isFound, rfl⟩ := Option.map_eq_some_iff.mp present
    exact shots entity found isFound (crowd.shots entity found isShot isFound)
  case live =>
    intro entity below
    rw [created] at below
    rw [rows, Option.isSome_map]
    exact crowd.live entity below

theorem inputs_crowd (order : LoopOrder) (crowd : Crowd players drift phase sim)
    (standers : ∀ seat < players, ∀ aim weapon, phase aim weapon → ∃ aim' weapon',
      movedRow sim seat (standerRow seat aim weapon) = standerRow seat aim' weapon' ∧
        later aim' weapon') :
    Crowd players drift later (processInputs order sim) := by
  have tables := process_inputs_tables order sim
  apply crowd_of_rows crowd tables.config tables.created (movedRow sim)
    (process_inputs_row order sim) standers
  intro entity row _ shot
  have unarmed := apply_inputs_unarmed sim.config sim.timeMs (inputsFor sim entity) shot.unarmed
  obtain ⟨intent, aim, weapon, applied⟩ :=
    apply_inputs_changes sim.config sim.timeMs (inputsFor sim entity) row
  unfold movedRow
  rw [applied] at unarmed ⊢
  dsimp only at unarmed ⊢
  rw [if_neg (by rw [shot.noPlayer]; exact Bool.false_ne_true)]
  exact ⟨shot.named, shot.noPlayer, unarmed, shot.slow, shot.near⟩

theorem finish_crowd (order : LoopOrder) (crowd : Crowd players drift phase sim)
    (ends : ∀ seat aim weapon, phase aim weapon →
      later aim (endedWeapon sim.timeMs (standerRow seat aim weapon) weapon)) :
    Crowd players drift later (sim.forEachEntity order .weaponWarmups inWarmupView
      (finishWarmup sim.config sim.timeMs)) := by
  have tables := for_each_tables (finishWarmup sim.config sim.timeMs) order .weaponWarmups
    inWarmupView sim
  apply crowd_of_rows crowd tables.config tables.created
    (fun _ row => if inWarmupView row then (finishWarmup sim.config sim.timeMs row).1 else row)
    (for_each_row _ order .weaponWarmups inWarmupView sim)
  · intro seat seated aim weapon inPhase
    refine ⟨aim, _, ?_, ends seat aim weapon inPhase⟩
    rw [if_pos (show inWarmupView (standerRow seat aim weapon) = true from rfl), crowd.configured,
      stander_finishes]
  · intro entity row _ shot
    rw [if_neg (by simp [inWarmupView, shot.unarmed])]
    exact shot

theorem shot_requests_nothing {row : Components} (shot : Shot drift row)
    (config : SimulationConfig) (timeMs : TimestampMs) :
    projectileRequest config timeMs row = none := by
  cases requested : projectileRequest config timeMs row with
  | none => rfl
  | some request =>
      obtain ⟨_, _, _, _, _, weapon, isWeapon, _⟩ := request_of_row requested
      rw [shot.unarmed] at isWeapon
      cases isWeapon

/-- Until its time no drawn bow is let go. -/
theorem drawn_wait (order : LoopOrder) {completesAtMs : Nat}
    (crowd : Crowd players drift (Drawn completesAtMs) sim)
    (early : sim.timeMs.toNat < completesAtMs) :
    Crowd players drift (Drawn completesAtMs) (processWeaponWarmups order sim) ∧
      (processWeaponWarmups order sim).registry.created = sim.registry.created := by
  have noRequest : ∀ entity row, sim.registry.get? entity = some row →
      projectileRequest sim.config sim.timeMs row = none := by
    intro entity row present
    by_cases seated : entity < players
    · obtain ⟨aim, weapon, isStander, drawn⟩ := crowd.stands entity seated
      rw [present] at isStander
      cases isStander
      cases requested : projectileRequest sim.config sim.timeMs (standerRow entity aim weapon) with
      | none => rfl
      | some request =>
          obtain ⟨_, _, _, _, _, _, isWeapon, complete, _⟩ := request_of_row requested
          cases isWeapon
          obtain ⟨_, _, warming, rfl⟩ := drawn
          rw [← UInt64.lt_iff_toNat_lt] at early
          rw [stander_completes, warming] at complete
          simp [UInt64.not_le.mpr early] at complete
    · exact shot_requests_nothing (crowd.shots entity row (Nat.le_of_not_lt seated) present) _ _
  rw [quiet_warmups_eq order sim noRequest]
  refine ⟨finish_crowd order crowd ?_, (for_each_tables _ order .weaponWarmups inWarmupView
    sim).created⟩
  intro seat aim weapon drawn
  rw [(drawn_ends seat aim weapon drawn sim.timeMs).1 early]
  exact drawn

theorem bow_shot {seat : Nat} (seated : seat < kSeats) (id : NetworkEntityId)
    {timeMs : TimestampMs} (soon : timeMs.toNat ≤ kLifetimeMs) :
    Shot drift (projectileRow timeMs id (bowRequest seat)) := by
  have expires : kLifetimeMs ≤ (timeMs + 2000).toNat := by
    unfold kLifetimeMs at *
    rw [UInt64.toNat_add]
    have two : (2000 : UInt64).toNat = 2000 := rfl
    omega
  have slow : (projectileRow timeMs id (bowRequest seat)).velocity =
      some { vx := 900, vy := 0 } := by
    have components : ({ vx := ((pixelsToFixed 900).toInt64 * (1 : Int16).toInt64 /
        kFixedOne.toInt64).toInt32, vy := ((pixelsToFixed 900).toInt64 * (0 : Int16).toInt64 /
        kFixedOne.toInt64).toInt32 } : VelocityComponent) = { vx := 900, vy := 0 } := by decide
    exact congrArg some components
  exact ⟨rfl, rfl, rfl, slow, seat, seated, 0, Nat.zero_le _, home seat, rfl, home_beside seated, _,
    rfl, rfl, expires⟩

/-- The new projectiles of a crowd join it. -/
theorem requests_join {requests : List ProjectileRequest} (crowd : Crowd players drift phase sim)
    (soon : sim.timeMs.toNat ≤ kLifetimeMs)
    (bows : ∀ request ∈ requests, ∃ seat < kSeats, request = bowRequest seat) :
    Crowd players drift phase (requests.foldl createProjectile sim) := by
  have created := create_all_created requests sim
  -- An entity is an old one or the projectile of a request.
  have joins (entity : Entity) (fresh : sim.registry.created ≤ entity)
      (below : entity < (requests.foldl createProjectile sim).registry.created) :
      ∃ row, (requests.foldl createProjectile sim).registry.get? entity = some row ∧
        Shot drift row := by
    obtain ⟨request, member, id, present⟩ := create_all_new requests sim fresh below
    obtain ⟨seat, seated, rfl⟩ := bows request member
    exact ⟨_, present, bow_shot seated id soon⟩
  constructor
  case configured =>
    exact Runs.run_invariant createProjectile (fun after => after.config = {})
      (fun _ _ kept => kept) sim crowd.configured requests
  case stands =>
    intro seat seated
    obtain ⟨aim, weapon, present, inPhase⟩ := crowd.stands seat seated
    exact ⟨aim, weapon, create_all_kept requests sim present, inPhase⟩
  case shots =>
    intro entity row isShot present
    by_cases old : entity < sim.registry.created
    · rw [create_all_row requests sim entity old] at present
      exact crowd.shots entity row isShot present
    · obtain ⟨found, isFound, shot⟩ := joins entity (Nat.le_of_not_lt old)
        (Registry.get?_lt _ present)
      rw [present] at isFound
      cases isFound
      exact shot
  case live =>
    intro entity below
    by_cases old : entity < sim.registry.created
    · rw [create_all_row requests sim entity old]
      exact crowd.live entity old
    · obtain ⟨found, isFound, _⟩ := joins entity (Nat.le_of_not_lt old) below
      rw [isFound]
      rfl

/-- At its time every drawn bow is let go, and shoots once. -/
theorem drawn_fire (order : LoopOrder) {completesAtMs : Nat}
    (crowd : Crowd players drift (Drawn completesAtMs) sim)
    (due : completesAtMs ≤ sim.timeMs.toNat)
    (few : players ≤ kSeats) (soon : sim.timeMs.toNat ≤ kLifetimeMs) :
    Crowd players drift Ready (processWeaponWarmups order sim) ∧
      (processWeaponWarmups order sim).registry.created = sim.registry.created + players := by
  have viewed (entity : Entity) : entity ∈ sim.registry.view order .weaponWarmups inWarmupView ↔
      entity < players := by
    rw [Registry.mem_view]
    constructor
    · rintro ⟨row, present, armed⟩
      by_contra isShot
      have shot := crowd.shots entity row (Nat.le_of_not_lt isShot) present
      simp [inWarmupView, shot.unarmed] at armed
    · intro seated
      obtain ⟨aim, weapon, present, _⟩ := crowd.stands entity seated
      exact ⟨_, present, rfl⟩
  have requests (entity : Entity) (seated : entity < players) :
      (sim.registry.get? entity).bind (projectileRequest sim.config sim.timeMs) =
        some (bowRequest entity) := by
    obtain ⟨aim, weapon, present, drawn⟩ := crowd.stands entity seated
    rw [present, crowd.configured]
    exact stander_requests entity aim weapon drawn due
  have fired : Crowd players drift Ready (sim.forEachEntity order .weaponWarmups inWarmupView
      (finishWarmup sim.config sim.timeMs)) :=
    finish_crowd order crowd fun seat aim weapon drawn =>
      (drawn_ends seat aim weapon drawn sim.timeMs).2 due
  have tables := for_each_tables (finishWarmup sim.config sim.timeMs) order .weaponWarmups
    inWarmupView sim
  unfold processWeaponWarmups
  constructor
  · apply requests_join fired (by rw [tables.timeMs]; exact soon)
    intro request member
    obtain ⟨entity, inView, requested⟩ := List.mem_filterMap.mp member
    rw [requests entity ((viewed entity).mp inView)] at requested
    cases requested
    exact ⟨entity, Nat.lt_of_lt_of_le ((viewed entity).mp inView) few, rfl⟩
  · rw [create_all_created, tables.created]
    congr 1
    -- The view is that of the players, and each of them requests.
    have all : (sim.registry.view order .weaponWarmups inWarmupView).Perm (List.range players) := by
      apply (List.perm_ext_iff_of_nodup (sim.registry.nodup_view order .weaponWarmups inWarmupView)
        List.nodup_range).mpr
      intro entity
      rw [viewed, List.mem_range]
    rw [List.filterMap_length_eq_length.mpr]
    · rw [all.length_eq, List.length_range]
    · intro entity inView
      rw [requests entity ((viewed entity).mp inView)]
      rfl

/-! The projectiles of a crowd. -/

theorem stander_flies (config : SimulationConfig) (isDefault : config = {}) (flown : List Entity)
    (entity : Entity) (seat : Nat) (aim : AimComponent) (weapon : WeaponStateComponent) :
    flownRow config flown entity (standerRow seat aim weapon) = standerRow seat aim weapon := by
  subst isDefault
  unfold flownRow
  split
  · rw [fly_transform {} (standerRow seat aim weapon) (home seat) {} rfl rfl]
    have stays : travel {} {} (home seat) = home seat := by
      unfold travel
      dsimp only
      rw [show integrateFixedPerSecond 0 16 = 0 from rfl, Int32.add_zero, Int32.add_zero]
    rw [stays]
    rfl
  · rfl

/-- The flight of a projectile of a crowd. -/
theorem shot_flies {row : Components} (shot : Shot drift row) (short : drift + 14 ≤ kDrift) :
    Shot (drift + 14) (fly {} row) ∧ inProjectileView row = true := by
  obtain ⟨named, noPlayer, unarmed, slow, seat, seated, way, within, place, placed, beside,
    projectile, carries, owned, expires⟩ := shot
  have onMap := beside_on_map (Nat.le_trans within (by omega)) beside
  have limited : Limited kWidestVelocity ({ vx := 900, vy := 0 } : VelocityComponent) :=
    ⟨by decide, by decide⟩
  obtain ⟨_, x, y⟩ := travel_yields { vx := 900, vy := 0 } place limited onMap
  constructor
  · rw [fly_transform {} row place { vx := 900, vy := 0 } placed slow]
    refine ⟨named, noPlayer, unarmed, slow, seat, seated, way + 14, by omega, _, rfl, ⟨?_, ?_⟩,
      projectile, carries, owned, expires⟩
    · rw [x, beside.x, show ((900 : Fixed).toInt * 16).tdiv 1000 = 14 by decide]
      omega
    · rw [y, beside.y, show ((0 : Fixed).toInt * 16).tdiv 1000 = 0 by decide]
      omega
  · exact (in_projectile_view_iff row).mpr ⟨_, projectile, place, _,
      (Option.some_get named).symm, carries, placed, slow⟩

theorem crowd_calm (crowd : Crowd players drift phase sim) (few : players ≤ kSeats)
    (short : drift + 14 ≤ kDrift) (soon : sim.timeMs.toNat < kLifetimeMs) : Calm sim := by
  intro entity row projectile transform present carries flown
  have isShot : players ≤ entity := by
    by_contra seated
    obtain ⟨aim, weapon, isStander, _⟩ := crowd.stands entity (Nat.lt_of_not_le seated)
    rw [present] at isStander
    cases isStander
    cases carries
  have shot := crowd.shots entity row isShot present
  obtain ⟨flies, _⟩ := shot_flies shot short
  obtain ⟨seat, seated, way, within, place, placed, beside, own, isOwn, owned, expires⟩ :=
    flies.near
  rw [crowd.configured] at flown ⊢
  rw [placed] at flown
  cases flown
  obtain ⟨same, flownRow, _⟩ := fly_changes {} row
  rw [flownRow] at isOwn
  rw [carries] at isOwn
  cases isOwn
  have onMap := beside_on_map (Nat.le_trans within short) beside
  constructor
  · rw [Bool.eq_false_iff, ne_eq, projectile_gone_iff]
    rintro (old | outside)
    · rw [UInt64.le_iff_toNat_le] at old
      omega
    · exact outside ⟨onMap.1.1, onMap.2.1, onMap.1.2, onMap.2.2⟩
  · intro target targetRow flown isTarget
    by_cases isOther : target < players
    · obtain ⟨aim, weapon, isStander, _⟩ := crowd.stands target isOther
      rw [isTarget] at isStander
      cases isStander
      rw [stander_flies {} rfl]
      unfold hits
      dsimp only [standerRow, playerRow]
      by_cases own : target = seat
      · rw [own, owned]
        simp
      · rw [show ({ x := (home target).x, y := (home target).y } : TransformComponent) = home target
            from rfl, beside_misses seated (Nat.lt_of_lt_of_le isOther few) (Ne.symm own)
            (Nat.le_trans within short) beside, Bool.and_false]
    · have other := crowd.shots target targetRow (Nat.le_of_not_lt isOther) isTarget
      have noPlayer := flown_player {} flown target targetRow
      rw [other.noPlayer] at noPlayer
      unfold hits
      rw [noPlayer]
      split
      · next isPlayer _ => cases isPlayer
      · rfl

theorem projectiles_crowd (order : LoopOrder) (crowd : Crowd players drift phase sim)
    (few : players ≤ kSeats) (short : drift + 14 ≤ kDrift)
    (soon : sim.timeMs.toNat < kLifetimeMs) :
    Crowd players (drift + 14) phase (processProjectiles order sim) := by
  have calm := crowd_calm crowd few short soon
  apply crowd_of_rows crowd (process_projectiles_setup order sim).config
    (process_projectiles_created order sim)
    (fun _ row => if inProjectileView row then fly sim.config row else row)
    (process_projectiles_calm order calm)
  · intro seat _ aim weapon inPhase
    exact ⟨aim, weapon, if_neg Bool.false_ne_true, inPhase⟩
  · intro entity row _ shot
    obtain ⟨flies, viewed⟩ := shot_flies shot short
    rw [if_pos viewed, crowd.configured]
    exact flies

/-- No player of a crowd is defeated, so none is born again. -/
theorem respawns_crowd (order : LoopOrder) (crowd : Crowd players drift phase sim) :
    Crowd players drift phase (processRespawns order sim) := by
  have tables := process_respawns_tables order sim
  apply crowd_of_rows crowd tables.config tables.created
    (fun _ row => if inRespawnView row then (respawnPlayer sim.config sim.timeMs row).1 else row)
    (process_respawns_row order sim)
  · intro seat _ aim weapon inPhase
    refine ⟨aim, weapon, ?_, inPhase⟩
    rw [respawn_waits]
    · exact ite_self _
    · rintro player isPlayer defeated
      cases isPlayer
      cases defeated
  · intro entity row _ shot
    rw [respawn_waits]
    · rw [ite_self]
      exact shot
    · intro player isPlayer
      rw [shot.noPlayer] at isPlayer
      cases isPlayer

end Stages

end Brawololo.StandingCrowd
