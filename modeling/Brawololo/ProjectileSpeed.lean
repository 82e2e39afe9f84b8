import Brawololo.MovementBounds

/-!
The speed of projectiles. The aim of an input reaches the velocity of the
projectile that a later tick spawns, multiplied by the speed of the weapon and
divided by the length 1000 of an aim, and nothing on the way bounds it. With the
default weapons a projectile is as slow as its weapon exactly if the aim it was
fired with is within 1000 on each axis.
-/

namespace Brawololo.ProjectileSpeed

open GameTypes EntityStore Simulation Simulation.GameSimulation SimulationStages EntityIdentity
open RowRules MovementBounds WeaponStages Runs

/-- A projectile is on each axis at most as fast as its source weapon. -/
def SpeedOfWeapon (config : SimulationConfig) (row : Components) : Prop :=
  ∀ projectile, row.projectile = some projectile →
    ∃ weapon velocity, findWeaponDefinition config.weapons projectile.sourceWeapon = some weapon ∧
      row.velocity = some velocity ∧ Limited weapon.projectileSpeedPerSecond.toInt velocity

def InReach (aim : AimComponent) : Prop :=
  (-1000 ≤ aim.x.toInt ∧ aim.x.toInt ≤ 1000) ∧ -1000 ≤ aim.y.toInt ∧ aim.y.toInt ≤ 1000

instance (aim : AimComponent) : Decidable (InReach aim) := inferInstanceAs (Decidable (_ ∧ _))

/-- The aim of the last input that has one, or the aim before the inputs. -/
def aimAfter (packets : List ClientInputPacket) (aim : AimComponent) : AimComponent :=
  packets.foldl
    (fun aim packet =>
      if packet.input.aimX ≠ 0 ∨ packet.input.aimY ≠ 0 then
        { x := packet.input.aimX, y := packet.input.aimY }
      else aim)
    aim

/-- A bow that fires in the tick at `timeMs`: its warmup is due, or the inputs of
the tick start one that is due at once because the clock wraps before its end. -/
def FiresBow (timeMs : TimestampMs) (packets : List ClientInputPacket)
    (weapon : WeaponStateComponent) : Prop :=
  weapon.type = .bow ∧
    if weapon.warming then weapon.warmupCompletesAtMs ≤ timeMs
    else (∃ packet ∈ packets, packet.input.fire = true) ∧ timeMs + 300 ≤ timeMs

/-- In a tick every living player whose bow fires has its aim in reach. -/
def AimsInReach (sim : GameSimulation) : ServerCall → Prop
  | .tick _ => ∀ entity row weapon, sim.registry.get? entity = some row → row.defeated = false →
      row.weapon = some weapon →
      FiresBow (advanceClock sim).timeMs (inputsFor (advanceClock sim) entity) weapon →
      InReach (aimAfter (inputsFor (advanceClock sim) entity) (row.aim.getD {}))
  | _ => True

/-! What the inputs of a tick do to the aim. -/

section Inputs

variable {config : SimulationConfig} {timeMs : TimestampMs}

theorem apply_input_aim (packet : ClientInputPacket) {row : Components}
    (living : row.defeated = false) :
    (applyInputToEntity config timeMs packet row).1.aim =
      some (aimAfter [packet] (row.aim.getD {})) := by
  rcases apply_input_cases config timeMs packet row with
    ⟨defeated, _⟩ | ⟨_, taken | ⟨_, _, _, _, _, _, _, _, _, started⟩⟩
  · rw [living] at defeated
    cases defeated
  · rw [taken]
    rfl
  · rw [started]
    rfl

theorem apply_inputs_aim (packets : List ClientInputPacket) {row : Components}
    (living : row.defeated = false) :
    (applyInputs config timeMs packets row).aim.getD {} = aimAfter packets (row.aim.getD {}) := by
  induction packets generalizing row with
  | nil => rfl
  | cons packet rest ih =>
      have next : (applyInputToEntity config timeMs packet row).1.defeated = false :=
        (apply_input_defeated config timeMs packet row).trans living
      have later := ih next
      rw [apply_input_aim packet living] at later
      exact later

end Inputs

theorem default_table_cases {type : WeaponType} {weapon : WeaponDefinition}
    (found : findWeaponDefinition defaultWeaponDefinitions type = some weapon) :
    weapon = defaultWeaponDefinition type :=
  default_weapon_cases found

/-- A request of a tick comes from a living player whose bow fires in it, with
the aim after its inputs. -/
theorem request_fires (sim : GameSimulation)
    (weapons : sim.config.weapons = defaultWeaponDefinitions) (entity : Entity) {row : Components}
    {request : ProjectileRequest}
    (requested : projectileRequest sim.config sim.timeMs (movedRow sim entity row) = some request) :
    row.defeated = false ∧ request.weapon = defaultWeaponDefinition .bow ∧
      (∃ weapon, row.weapon = some weapon ∧
        FiresBow sim.timeMs (inputsFor sim entity) weapon) ∧
      request.aim = aimAfter (inputsFor sim entity) (row.aim.getD {}) := by
  obtain ⟨_, _, _, isAim, spawns, later, isLater, complete, found⟩ := request_of_row requested
  have facts : (movedRow sim entity row).defeated = false ∧ later.warming = true ∧
      later.warmupCompletesAtMs ≤ sim.timeMs := by
    simpa [warmupComplete, and_assoc] using complete
  obtain ⟨alive, warming, due⟩ := facts
  have living : row.defeated = false := (moved_row_defeated sim entity row).symm.trans alive
  obtain ⟨_, _, applied⟩ := moved_row_of_applied sim entity row
  rw [applied] at isAim
  have aimed := @apply_inputs_aim sim.config sim.timeMs (inputsFor sim entity) row living
  have isAim' : (applyInputs sim.config sim.timeMs (inputsFor sim entity) row).aim =
    some request.aim := isAim
  rw [isAim'] at aimed
  rw [weapons] at found
  have isDefault := default_table_cases found
  -- An unarmed request would spawn nothing.
  have isBow : later.type = .bow := by
    cases type : later.type with
    | bow => rfl
    | none =>
        rw [isDefault, type] at spawns
        cases spawns
  rw [isBow] at isDefault
  refine ⟨living, isDefault, ?_, aimed⟩
  obtain ⟨weapon, isWeapon, warmed⟩ := moved_row_warmed sim entity isLater
  refine ⟨weapon, isWeapon, ?_⟩
  unfold FiresBow
  cases warmed with
  | left =>
      rw [if_pos warming]
      exact ⟨isBow, due⟩
  | started definition packet idle given fire known =>
      have isType : weapon.type = .bow := isBow
      rw [weapons, isType] at known
      rw [default_table_cases known] at due
      rw [if_neg (by rw [idle]; exact Bool.false_ne_true)]
      exact ⟨isType, ⟨packet, given, fire⟩, due⟩

/-! The rows of a run. -/

structure Slow (config : SimulationConfig) (row : Components) : Prop where
  apart : row.player.isSome → row.projectile = none
  slow : SpeedOfWeapon config row

theorem Slow.congr {config : SimulationConfig} {before after : Components}
    (slow : Slow config before) (player : after.player.isSome = before.player.isSome)
    (projectile : after.projectile = before.projectile)
    (velocity : after.velocity = before.velocity) : Slow config after := by
  obtain ⟨apart, speed⟩ := slow
  constructor
  · rw [player, projectile]
    exact apart
  · unfold SpeedOfWeapon
    rw [projectile, velocity]
    exact speed

/-- A player is no projectile, so its velocity is free. -/
theorem Slow.player {config : SimulationConfig} {before after : Components}
    (slow : Slow config before) (isPlayer : before.player.isSome)
    (projectile : after.projectile = before.projectile) : Slow config after := by
  have none := slow.apart isPlayer
  rw [← projectile] at none
  refine ⟨fun _ => none, ?_⟩
  intro carried carries
  rw [none] at carries
  cases carries

theorem moved_slow {config : SimulationConfig} (sim : GameSimulation) (entity : Entity)
    {row : Components} (slow : Slow config row) : Slow config (movedRow sim entity row) := by
  obtain ⟨transform, velocity, aim, weapon, moved, _⟩ := moved_row_changes sim entity row
  by_cases isPlayer : row.player.isSome
  · rw [moved]
    exact slow.player isPlayer rfl
  · obtain ⟨intent, aim', weapon', applied⟩ :=
      apply_inputs_changes sim.config sim.timeMs (inputsFor sim entity) row
    have unmoved : (movedRow sim entity row).velocity = row.velocity := by
      unfold movedRow
      dsimp only
      rw [applied, if_neg isPlayer]
      rfl
    refine slow.congr ?_ ?_ unmoved
    · rw [moved]
    · rw [moved]

/-- The velocity of a projectile is the aim times the speed for a unit of aim. -/
theorem spawned_slow {config : SimulationConfig} (weapons : config.weapons = defaultWeaponDefinitions)
    (timeMs : TimestampMs) (id : NetworkEntityId) (request : ProjectileRequest)
    (isBow : request.weapon = defaultWeaponDefinition .bow) (inReach : InReach request.aim) :
    Slow config (projectileRow timeMs id request) := by
  have x := (projectile_velocity_yields .bow request.aim.x).exact
  have y := (projectile_velocity_yields .bow request.aim.y).exact
  have speed : (defaultWeaponDefinition .bow).projectileSpeedPerSecond.toInt = 900000 := by decide
  have perAim : speedPerAim .bow = 900 := rfl
  rw [perAim] at x y
  rw [← isBow] at x y
  refine ⟨by simp [projectileRow], ?_⟩
  intro projectile carries
  cases carries
  refine ⟨defaultWeaponDefinition .bow, _, ?_, rfl, ?_⟩
  · rw [weapons, isBow]
    rfl
  · obtain ⟨⟨xLow, xHigh⟩, yLow, yHigh⟩ := inReach
    unfold Limited
    dsimp only
    rw [x, y, speed]
    omega

theorem slow_rule {config : SimulationConfig} (weapons : config.weapons = defaultWeaponDefinitions)
    (sim : GameSimulation) (call : ServerCall) (configured : sim.config = config)
    (aims : AimsInReach sim call) : CallRule (Slow config) sim call := by
  cases call with
  | login command =>
      intro id clientId
      refine ⟨fun _ => rfl, ?_⟩
      intro projectile carries
      cases carries
  | input packet => trivial
  | tick order =>
      have known : (advanceClock sim).config.weapons = defaultWeaponDefinitions := by
        rw [← weapons, ← configured]
        rfl
      have aimed : ∀ entity row weapon, (advanceClock sim).registry.get? entity = some row →
          row.defeated = false → row.weapon = some weapon →
          FiresBow (advanceClock sim).timeMs (inputsFor (advanceClock sim) entity) weapon →
          InReach (aimAfter (inputsFor (advanceClock sim) entity) (row.aim.getD {})) := aims
      unfold CallRule
      generalize advanceClock sim = start at known aimed
      constructor
      case moves => exact fun entity row _ slow => moved_slow start entity slow
      case finishes =>
        intro row slow
        obtain ⟨weapon, finished⟩ := finish_warmup_changes start.config start.timeMs row
        rw [finished]
        exact slow.congr rfl rfl rfl
      case spawns =>
        intro entity row request id present _ requested
        obtain ⟨living, isBow, ⟨weapon, isWeapon, fires⟩, isAim⟩ :=
          request_fires start known entity requested
        refine spawned_slow weapons start.timeMs id request isBow ?_
        rw [isAim]
        exact aimed entity row weapon present living isWeapon fires
      case flies =>
        intro row projectile transform slow _ _ _
        obtain ⟨later, isFlown, _⟩ := fly_changes start.config row
        rw [isFlown]
        exact slow.congr rfl rfl rfl
      case strikes =>
        intro projectileId projectile row slow
        obtain ⟨player, damaged, client⟩ :=
          damage_changes start.config start.timeMs projectileId projectile row
        have isPlayer := congrArg Option.isSome client
        simp only [Option.isSome_map] at isPlayer
        rw [damaged]
        exact slow.congr isPlayer rfl rfl
      case respawns =>
        intro row slow
        rcases respawn_cases start.config start.timeMs row with
          ⟨rests, _⟩ | ⟨identity, player, _, isPlayer, _, _, reborn⟩
        · rw [rests]
          exact slow
        · rw [reborn]
          exact slow.player (by rw [isPlayer]; rfl) rfl

/-- With the default weapons, in every run in whose ticks the bows that fire are
aimed in reach, every projectile in every state of the run is as slow as its
weapon. -/
theorem projectile_speed_bounded (config : SimulationConfig)
    (weapons : config.weapons = defaultWeaponDefinitions) (calls : List ServerCall)
    (aims : EveryStep serverStep AimsInReach { config := config } calls) :
    ∀ earlier later, calls = earlier ++ later →
      EveryRow (SpeedOfWeapon config) (serverRun config earlier) := by
  intro earlier later isSplit
  rw [isSplit, every_step_append] at aims
  have both := run_invariant_when serverStep
    (fun sim => sim.config = config ∧ EveryRow (Slow config) sim) AimsInReach
    (fun sim call kept met => ⟨(server_step_config sim call).trans kept.1,
      server_step_every_row sim call (slow_rule weapons sim call kept.1 met) kept.2⟩)
    { config := config } ⟨rfl, by intro entity row present; simp at present⟩ earlier aims.1
  exact fun entity row present => (both.2 entity row present).slow

/-- A player asks for a shot along the x axis, and `ticks` ticks follow. -/
def shotRun (aimX : Int16) (ticks : Nat) : List ServerCall :=
  [.login { header := { clientId := 7, sequence := 1 } },
   .input { header := { clientId := 7, sequence := 2 }, input := { aimX := aimX, fire := true } }] ++
    List.replicate ticks (.tick .stored)

/-- While only the first entity is there, its aim is the one that counts. -/
theorem aims_of_first (sim : GameSimulation) (order : LoopOrder)
    (created : (advanceClock sim).registry.created = 1)
    (aimed : ((advanceClock sim).registry.get? 0).map
      (fun row => decide (InReach (aimAfter (inputsFor (advanceClock sim) 0) (row.aim.getD {})))) =
        some true) :
    AimsInReach sim (.tick order) := by
  intro entity row weapon present _ _ _
  have below : entity < (advanceClock sim).registry.created := Registry.get?_lt _ present
  rw [created] at below
  have first : entity = 0 := Nat.lt_one_iff.mp below
  subst first
  have own : (advanceClock sim).registry.get? 0 = some row := present
  rw [own] at aimed
  exact of_decide_eq_true (Option.some.inj aimed)

theorem projectile_speed_bounded_once :
    EveryStep serverStep AimsInReach { config := { tickDurationMs := 400 } } (shotRun 1000 2) ∧
      EveryRow (SpeedOfWeapon { tickDurationMs := 400 })
        (serverRun { tickDurationMs := 400 } (shotRun 1000 2)) := by
  have aims : EveryStep serverStep AimsInReach { config := { tickDurationMs := 400 } }
      (shotRun 1000 2) := by
    refine ⟨trivial, trivial, ?_, ?_, trivial⟩
    · exact aims_of_first (serverRun { tickDurationMs := 400 } (shotRun 1000 0)) .stored
        (by decide +kernel) (by decide +kernel)
    · exact aims_of_first (serverRun { tickDurationMs := 400 } (shotRun 1000 1)) .stored
        (by decide +kernel) (by decide +kernel)
  exact ⟨aims, projectile_speed_bounded { tickDurationMs := 400 } rfl (shotRun 1000 2) aims
    (shotRun 1000 2) [] (List.append_nil _).symm⟩

/-- A shot with the longest aim an input can carry is 32 times too fast. -/
theorem projectile_speed_exceeded :
    ¬ ∀ calls : List ServerCall, EveryRow (SpeedOfWeapon {}) (serverRun {} calls) := by
  intro all
  have fast : ((serverRun {} (shotRun 32767 20)).registry.get? 1).map
      (fun row => (row.projectile.map (fun projectile => projectile.sourceWeapon), row.velocity)) =
        some (some .bow, some { vx := 29490300 }) := by decide +kernel
  obtain ⟨row, present, isRow⟩ := Option.map_eq_some_iff.mp fast
  obtain ⟨carried, isVelocity⟩ := Prod.mk.inj isRow
  obtain ⟨projectile, carries, isBow⟩ := Option.map_eq_some_iff.mp carried
  obtain ⟨weapon, velocity, found, owned, limited⟩ :=
    all (shotRun 32767 20) 1 row present projectile carries
  rw [isBow] at found
  cases found
  rw [isVelocity] at owned
  cases owned
  exact absurd limited.1.2 (by decide)

end Brawololo.ProjectileSpeed
