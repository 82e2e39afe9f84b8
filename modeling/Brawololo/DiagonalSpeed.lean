import Brawololo.MovementBounds

/-!
The speed of a player in the plane. The acceleration of a diagonal input is
normalized, but the speed is cut to the limit on each axis by itself, so it can
leave the circle of that radius: after some ticks of a diagonal input, or of one
input along each axis after the other. It stays in the circle in the runs in
which the velocity before each tick leaves room for the input.
-/

namespace Brawololo.DiagonalSpeed

open GameTypes EntityStore Simulation Simulation.GameSimulation SimulationStages EntityIdentity
open TrappingArithmetic RowRules MovementBounds PlayerMotion WeaponStages Runs

/-- No faster than `limit` in the plane. -/
def InCircle (limit : Int) (vx vy : Int) : Prop := vx ^ 2 + vy ^ 2 ≤ limit ^ 2

instance (limit vx vy : Int) : Decidable (InCircle limit vx vy) :=
  inferInstanceAs (Decidable (_ ≤ _))

/-- `maxMoveSpeedPerSecond` of the default configuration. -/
def kLimit : Int := 360000

def cut (value : Int) : Int := max (-kLimit) (min kLimit value)

/-- What the square of a speed is short of the square of the limit. -/
def headroom (velocity : VelocityComponent) : Int :=
  kLimit ^ 2 - (velocity.vx.toInt ^ 2 + velocity.vy.toInt ^ 2)

/-- The directions that an input holds, along each axis. -/
def heading (input : InputFrame) : Int × Int := (input.moveX.toInt.sign, input.moveY.toInt.sign)

/-- How far a tick of the input drives the velocity along each axis that it holds. -/
def drive (input : InputFrame) : Int :=
  if (heading input).1 ≠ 0 ∧ (heading input).2 ≠ 0 then 29411 else 41600

/-- The circle has room for the input: it brings the player to rest along one axis
or leaves it so, or the player goes slowly enough along the held directions. -/
def HasRoom (velocity : VelocityComponent) (input : InputFrame) : Prop :=
  velocity.vx.toInt = -(drive input * (heading input).1) ∨
    velocity.vy.toInt = -(drive input * (heading input).2) ∨
    2 * drive input * ((heading input).1 * velocity.vx.toInt +
        (heading input).2 * velocity.vy.toInt) +
      drive input ^ 2 * ((heading input).1 ^ 2 + (heading input).2 ^ 2) ≤ headroom velocity

instance (velocity : VelocityComponent) (input : InputFrame) :
    Decidable (HasRoom velocity input) := inferInstanceAs (Decidable (_ ∨ _ ∨ _))

/-- In a tick every living player with pending inputs has room for the last of
them. -/
def PushesFit (sim : GameSimulation) : ServerCall → Prop
  | .tick _ => ∀ entity row velocity earlier packet, sim.registry.get? entity = some row →
      row.player.isSome → row.defeated = false → row.velocity = some velocity →
      inputsFor (advanceClock sim) entity = earlier ++ [packet] →
      HasRoom velocity packet.input
  | _ => True

/-- What is asked of a row: a player is no faster than the limit in the plane. -/
def RoundSpeed (row : Components) : Prop :=
  row.player.isSome → ∀ velocity, row.velocity = some velocity →
    InCircle ({} : SimulationConfig).maxMoveSpeedPerSecond.toInt velocity.vx.toInt
      velocity.vy.toInt

/-! One step. -/

theorem limit_eq : ({} : SimulationConfig).maxMoveSpeedPerSecond.toInt = kLimit := by decide

theorem cut_eq (value : Fixed) :
    (clampFixed value (-GameTypes.pixelsToFixed 360) (GameTypes.pixelsToFixed 360)).toInt =
      cut value.toInt := by
  have high : (GameTypes.pixelsToFixed 360).toInt = 360000 := by decide
  have low : (-GameTypes.pixelsToFixed 360).toInt = -360000 := by decide
  rw [clamp_toInt, high, low]
  unfold cut kLimit
  split_ifs <;> omega

/-- What one tick of an input adds to a velocity, by axis. -/
def push (input : InputFrame) : Int × Int :=
  let normalized := normalizeDigitalInput input.moveX input.moveY
  ((41600 * normalized.x.toInt).tdiv 1000, (41600 * normalized.y.toInt).tdiv 1000)

/-- The digital sign of a move is that of its value. -/
theorem digital_sign_matches (move : Int8) :
    (digitalSign move = 0 ∧ move.toInt.sign = 0) ∨
      (digitalSign move = 1 ∧ move.toInt.sign = 1) ∨
      (digitalSign move = -1 ∧ move.toInt.sign = -1) := by
  unfold digitalSign
  simp only [Int8.lt_iff_toInt_lt, Int8.toInt_zero]
  rcases lt_trichotomy move.toInt 0 with below | zero | above
  · rw [if_neg (by omega), if_pos below]
    exact Or.inr (Or.inr ⟨by decide, Int.sign_eq_neg_one_of_neg below⟩)
  · rw [if_neg (by omega), if_neg (by omega), zero]
    exact Or.inl ⟨by decide, by decide⟩
  · rw [if_pos above, if_neg (by omega)]
    exact Or.inr (Or.inl ⟨by decide, Int.sign_eq_one_of_pos above⟩)

/-- A diagonal input drives by 707 in 1000 along each axis. -/
theorem push_value (input : InputFrame) :
    push input = (drive input * (heading input).1, drive input * (heading input).2) := by
  unfold push normalizeDigitalInput drive heading
  -- Along each axis the input holds one direction, the other or neither.
  rcases digital_sign_matches input.moveX with ⟨x, signX⟩ | ⟨x, signX⟩ | ⟨x, signX⟩ <;>
    rcases digital_sign_matches input.moveY with ⟨y, signY⟩ | ⟨y, signY⟩ | ⟨y, signY⟩ <;>
      rw [x, y, signX, signY] <;> decide

theorem pushed_value (input : InputFrame) (velocity : VelocityComponent)
    (limited : Limited 360000 velocity) :
    (steer {} (some (intentOf input)) velocity).vx.toInt =
        cut (velocity.vx.toInt + (push input).1) ∧
      (steer {} (some (intentOf input)) velocity).vy.toInt =
        cut (velocity.vy.toInt + (push input).2) := by
  obtain ⟨x, y⟩ := normalize_bounds input.moveX input.moveY
  constructor
  · exact (cut_eq _).trans (congrArg cut (acceleration_yields velocity.vx _ limited.1 x).exact)
  · exact (cut_eq _).trans (congrArg cut (acceleration_yields velocity.vy _ limited.2 y).exact)

theorem cut_within {value : Int} (within : |value| ≤ kLimit) : cut value = value := by
  obtain ⟨low, high⟩ := abs_le.mp within
  unfold cut
  omega

theorem cut_beyond {value : Int} (beyond : kLimit < |value|) : |cut value| = kLimit := by
  unfold cut kLimit at *
  rcases lt_abs.mp beyond with above | below
  · rw [show max (-360000) (min 360000 value) = 360000 by omega]
    decide
  · rw [show max (-360000) (min 360000 value) = -360000 by omega]
    decide

theorem cut_at_most (value : Int) : |cut value| ≤ kLimit := by
  unfold cut kLimit
  exact abs_le.mpr ⟨by omega, by omega⟩

/-- A velocity whose cut is in the circle was in it itself, or rests along an axis. -/
theorem cut_in_circle_iff (x y : Int) :
    InCircle kLimit (cut x) (cut y) ↔ x = 0 ∨ y = 0 ∨ InCircle kLimit x y := by
  have limit : |kLimit| = kLimit := by decide
  -- Beyond the limit along one axis, there is no room along the other.
  have beyond {far other : Int} (isFar : kLimit < |far|)
      (inCircle : cut far ^ 2 + cut other ^ 2 ≤ kLimit ^ 2) : other = 0 := by
    have square : cut far ^ 2 = kLimit ^ 2 := by
      rw [sq_eq_sq_iff_abs_eq_abs, cut_beyond isFar, limit]
    have none : cut other ^ 2 ≤ 0 := by omega
    have rests : cut other = 0 := pow_eq_zero_iff (by decide) |>.mp (le_antisymm none (sq_nonneg _))
    unfold cut kLimit at rests
    omega
  have alone (value : Int) : cut 0 ^ 2 + cut value ^ 2 ≤ kLimit ^ 2 := by
    have square : cut value ^ 2 ≤ kLimit ^ 2 := sq_le_sq.mpr (by rw [limit]; exact cut_at_most value)
    rw [show cut 0 = 0 by decide]
    omega
  constructor
  · intro inCircle
    unfold InCircle at inCircle
    by_cases xFar : kLimit < |x|
    · exact Or.inr (Or.inl (beyond xFar inCircle))
    · by_cases yFar : kLimit < |y|
      · rw [add_comm] at inCircle
        exact Or.inl (beyond yFar inCircle)
      · rw [cut_within (not_lt.mp xFar), cut_within (not_lt.mp yFar)] at inCircle
        exact Or.inr (Or.inr inCircle)
  · rintro (rfl | rfl | inCircle)
    · exact alone y
    · unfold InCircle
      rw [add_comm]
      exact alone x
    · have xWithin : |x| ≤ kLimit := by
        rw [← limit]
        exact sq_le_sq.mp (le_trans (le_add_of_nonneg_right (sq_nonneg y)) inCircle)
      have yWithin : |y| ≤ kLimit := by
        rw [← limit]
        exact sq_le_sq.mp (le_trans (le_add_of_nonneg_left (sq_nonneg x)) inCircle)
      rw [cut_within xWithin, cut_within yWithin]
      exact inCircle

/-- The condition is exact: with room, and only then, the circle is not left. -/
theorem has_room_iff (velocity : VelocityComponent) (input : InputFrame) :
    HasRoom velocity input ↔ InCircle kLimit (cut (velocity.vx.toInt + (push input).1))
      (cut (velocity.vy.toInt + (push input).2)) := by
  rw [cut_in_circle_iff, push_value]
  unfold HasRoom headroom InCircle
  dsimp only
  rw [eq_neg_iff_add_eq_zero, eq_neg_iff_add_eq_zero]
  refine or_congr_right (or_congr_right ?_)
  constructor
  · intro fits
    linarith
  · intro inCircle
    linarith

/-- Cutting and friction bring a component closer to zero. -/
theorem slowed_smaller (value : Int) : |cut ((value * 72).tdiv 100)| ≤ |value| := by
  have least := neg_abs_le value
  have most := le_abs_self value
  have nonnegative := abs_nonneg value
  obtain ⟨low, high⟩ : -|value| ≤ (value * 72).tdiv 100 ∧ (value * 72).tdiv 100 ≤ |value| :=
    tdiv_between (by decide) (by omega) (by omega)
  unfold cut kLimit
  exact abs_le.mpr ⟨by omega, by omega⟩

theorem slowed_value (velocity : VelocityComponent) :
    (steer {} none velocity).vx.toInt = cut ((velocity.vx.toInt * 72).tdiv 100) ∧
      (steer {} none velocity).vy.toInt = cut ((velocity.vy.toInt * 72).tdiv 100) := by
  constructor
  · exact (cut_eq _).trans (congrArg cut (friction_yields velocity.vx).exact)
  · exact (cut_eq _).trans (congrArg cut (friction_yields velocity.vy).exact)

theorem slowed_in_circle {limit : Int} {velocity : VelocityComponent}
    (inCircle : InCircle limit velocity.vx.toInt velocity.vy.toInt) :
    InCircle limit (steer {} none velocity).vx.toInt (steer {} none velocity).vy.toInt := by
  obtain ⟨x, y⟩ := slowed_value velocity
  have xSmaller := sq_le_sq.mpr (slowed_smaller velocity.vx.toInt)
  have ySmaller := sq_le_sq.mpr (slowed_smaller velocity.vy.toInt)
  unfold InCircle at *
  rw [x, y]
  omega

theorem still_in_circle {limit : Int} : InCircle limit 0 0 := by
  unfold InCircle
  have square := sq_nonneg limit
  omega

/-! The rows of a run. -/

/-- What a run keeps of a row: between calls it has no input intent. -/
structure Circling (row : Components) : Prop where
  bounds : InBounds row
  named : row.identity.isSome
  rests : row.inputIntent = none
  round : RoundSpeed row

theorem Circling.congr {before after : Components} (circling : Circling before)
    (bounds : InBounds after) (named : after.identity = before.identity)
    (rests : after.inputIntent = before.inputIntent)
    (player : after.player.isSome = before.player.isSome)
    (velocity : after.velocity = before.velocity) : Circling after := by
  refine ⟨bounds, by rw [named]; exact circling.named, rests.trans circling.rests, ?_⟩
  unfold RoundSpeed
  rw [player, velocity]
  exact circling.round

/-- Without an input the player brakes, and a defeated one stands still. -/
theorem braked_circling {row : Components} (circling : Circling row) (isPlayer : row.player.isSome) :
    RoundSpeed (integrateMovement {} row).1 := by
  obtain ⟨_, _, rests, round⟩ := circling
  unfold integrateMovement
  rw [rests]
  split
  · next identity transform velocity _ _ isVelocity =>
      split
      · intro _ still isStill
        cases isStill
        exact still_in_circle
      · intro _ later isLater
        cases isLater
        exact slowed_in_circle (round isPlayer velocity isVelocity)
  · exact round

theorem moved_circling (sim : GameSimulation) (configured : sim.config = {}) (entity : Entity)
    {row : Components} (circling : Circling row)
    (pushed : ∀ velocity earlier packet, row.player.isSome → row.defeated = false →
      row.velocity = some velocity → inputsFor sim entity = earlier ++ [packet] →
      HasRoom velocity packet.input) :
    Circling (movedRow sim entity row) := by
  have bounds := moved_in_bounds sim configured entity circling.bounds
  obtain ⟨transform, velocity, aim, weapon, moved, _⟩ := moved_row_changes sim entity row
  refine ⟨bounds, by rw [moved]; exact circling.named, by rw [moved], ?_⟩
  have same : (movedRow sim entity row).player = row.player := by rw [moved]
  intro isPlayer
  rw [same] at isPlayer
  -- A row that takes no input brakes.
  have brakes (unmoved : applyInputs sim.config sim.timeMs (inputsFor sim entity) row = row) :
      RoundSpeed (movedRow sim entity row) := by
    unfold movedRow
    dsimp only
    rw [unmoved, if_pos isPlayer, configured]
    exact braked_circling circling isPlayer
  rcases List.eq_nil_or_concat (inputsFor sim entity) with none | ⟨earlier, packet, inputs⟩
  · exact brakes (by rw [none]; rfl) (by rw [same]; exact isPlayer)
  · cases living : row.defeated with
    | true =>
        exact brakes (defeated_apply_inputs sim.config sim.timeMs _ living)
          (by rw [same]; exact isPlayer)
    | false =>
        rw [List.concat_eq_append] at inputs
        obtain ⟨place, isPlace, _⟩ := circling.bounds.placed
        obtain ⟨speed, isSpeed, _, limited⟩ := circling.bounds.moving
        have motion : Moves row (place, speed) :=
          ⟨circling.named, isPlace, isSpeed, isPlayer, living⟩
        have later := moved_row_moves sim entity earlier packet inputs motion
        rw [configured] at later
        intro found isFound
        have isLater := later.moving
        rw [isFound] at isLater
        cases isLater
        obtain ⟨x, y⟩ := pushed_value packet.input speed (limited isPlayer)
        have inCircle := (has_room_iff speed packet.input).mp
          (pushed speed earlier packet isPlayer living isSpeed inputs)
        rw [limit_eq]
        unfold moveUnder
        dsimp only
        rw [x, y]
        exact inCircle

theorem circling_rule (sim : GameSimulation) (call : ServerCall) (configured : sim.config = {})
    (pushes : PushesFit sim call) : CallRule Circling sim call := by
  have bounds := in_bounds_rule sim call configured
  have still : RoundSpeed { player := some {}, velocity := some {} } := by
    intro _ velocity isVelocity
    cases isVelocity
    exact still_in_circle
  cases call with
  | login command =>
      intro id clientId
      exact ⟨bounds id clientId, rfl, rfl, fun _ => still rfl⟩
  | input packet => trivial
  | tick order =>
      have config : (advanceClock sim).config = {} := configured
      have pushed : ∀ entity row velocity earlier packet,
          (advanceClock sim).registry.get? entity = some row → row.player.isSome →
          row.defeated = false → row.velocity = some velocity →
          inputsFor (advanceClock sim) entity = earlier ++ [packet] →
          HasRoom velocity packet.input := pushes
      have rule : TickRule InBounds (advanceClock sim) := bounds
      unfold CallRule
      generalize advanceClock sim = start at config pushed rule
      constructor
      case moves =>
        intro entity row present circling
        exact moved_circling start config entity circling fun velocity earlier packet =>
          pushed entity row velocity earlier packet present
      case finishes =>
        intro row circling
        have kept := rule.finishes row circling.bounds
        obtain ⟨weapon, finished⟩ := finish_warmup_changes start.config start.timeMs row
        rw [finished] at kept ⊢
        exact circling.congr kept rfl rfl rfl rfl
      case spawns =>
        intro entity row request id present circling requested
        refine ⟨rule.spawns entity row request id present circling.bounds requested, rfl, rfl, ?_⟩
        intro isPlayer
        cases isPlayer
      case flies =>
        intro row projectile transform circling carries flown stays
        have kept := rule.flies row projectile transform circling.bounds carries flown stays
        obtain ⟨later, isFlown, _⟩ := fly_changes start.config row
        rw [isFlown] at kept ⊢
        exact circling.congr kept rfl rfl rfl rfl
      case strikes =>
        intro projectileId projectile row circling
        have kept := rule.strikes projectileId projectile row circling.bounds
        obtain ⟨player, damaged, client⟩ :=
          damage_changes start.config start.timeMs projectileId projectile row
        -- A hit changes the player component only.
        have isPlayer := congrArg Option.isSome client
        simp only [Option.isSome_map] at isPlayer
        rw [damaged] at kept ⊢
        exact circling.congr kept rfl rfl isPlayer rfl
      case respawns =>
        intro row circling
        have kept := rule.respawns row circling.bounds
        rcases respawn_cases start.config start.timeMs row with
          ⟨rests, _⟩ | ⟨identity, player, _, _, _, _, reborn⟩
        · rw [rests]
          exact circling
        · rw [reborn] at kept ⊢
          exact ⟨kept, circling.named, circling.rests, fun _ => still rfl⟩

/-- In every run whose ticks have room for their inputs, no player is faster than
the limit in any state of the run. -/
theorem diagonal_speed_bounded (calls : List ServerCall)
    (pushes : EveryStep serverStep PushesFit { config := {} } calls) :
    ∀ earlier later, calls = earlier ++ later → EveryRow RoundSpeed (serverRun {} earlier) := by
  intro earlier later isSplit
  rw [isSplit, every_step_append] at pushes
  have both := run_invariant_when serverStep
    (fun sim => sim.config = {} ∧ EveryRow Circling sim) PushesFit
    (fun sim call kept met => ⟨(server_step_config sim call).trans kept.1,
      server_step_every_row sim call (circling_rule sim call kept.1 met) kept.2⟩)
    { config := {} } ⟨rfl, by intro entity row present; simp at present⟩ earlier pushes.1
  exact fun entity row present => (both.2 entity row present).round

/-- The input of each of `ticks` ticks holds both axes. -/
def diagonalRun (ticks : Nat) : List ServerCall :=
  .login { header := { clientId := 7, sequence := 1 } } ::
    (List.range ticks).flatMap fun tick =>
      [.input { header := { clientId := 7, sequence := UInt32.ofNat (tick + 2) },
                input := { moveX := 1, moveY := 1 } },
       .tick .stored]

theorem diagonal_speed_bounded_once :
    EveryStep serverStep PushesFit { config := {} } (diagonalRun 1) ∧
      EveryRow RoundSpeed (serverRun {} (diagonalRun 1)) := by
  have pushes : EveryStep serverStep PushesFit { config := {} } (diagonalRun 1) := by
    refine ⟨trivial, trivial, ?_, trivial⟩
    intro entity row velocity earlier packet present _ _ isVelocity inputs
    have created : (serverRun {} ((diagonalRun 1).take 2)).registry.created = 1 := by
      decide +kernel
    have below : entity < (serverRun {} ((diagonalRun 1).take 2)).registry.created :=
      Registry.get?_lt _ present
    rw [created] at below
    have first : entity = 0 := Nat.lt_one_iff.mp below
    subst first
    have still : ((serverRun {} ((diagonalRun 1).take 2)).registry.get? 0).map
        (fun row => row.velocity) = some (some {}) := by decide +kernel
    have own : ((serverRun {} ((diagonalRun 1).take 2)).registry.get? 0).map
        (fun row => row.velocity) = some row.velocity :=
      congrArg (Option.map fun row : Components => row.velocity) present
    rw [still, isVelocity] at own
    cases own
    have taken : (inputsFor (advanceClock (serverRun {} ((diagonalRun 1).take 2))) 0).map
        (fun packet => packet.input) = [{ moveX := 1, moveY := 1 }] := by decide +kernel
    have given := congrArg (List.map fun packet : ClientInputPacket => packet.input) inputs
    have last : packet.input = { moveX := 1, moveY := 1 } := by
      have lasts := congrArg List.getLast? (taken.symm.trans given)
      simpa using lasts.symm
    rw [last]
    decide
  exact ⟨pushes, diagonal_speed_bounded (diagonalRun 1) pushes (diagonalRun 1) []
    (List.append_nil _).symm⟩

/-- After nine ticks of a diagonal input a player is faster than the limit. -/
theorem diagonal_speed_exceeded :
    ¬ ∀ calls : List ServerCall, EveryRow RoundSpeed (serverRun {} calls) := by
  intro all
  have fast : ((serverRun {} (diagonalRun 9)).registry.get? 0).map
      (fun row => (row.player.isSome, row.velocity)) =
        some (true, some { vx := 264699, vy := 264699 }) := by decide +kernel
  obtain ⟨row, present, isRow⟩ := Option.map_eq_some_iff.mp fast
  obtain ⟨isPlayer, isVelocity⟩ := Prod.mk.inj isRow
  have round := all (diagonalRun 9) 0 row present isPlayer _ isVelocity
  exact absurd round (by decide)

end Brawololo.DiagonalSpeed
