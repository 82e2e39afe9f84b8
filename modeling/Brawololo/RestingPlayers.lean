import Brawololo.CombatBooks
import Brawololo.Damping
import Brawololo.DefeatedPlayers
import Brawololo.DiagonalSpeed
import Brawololo.ProjectileLifecycle

/-!
What becomes of a player that no input reaches. Each tick damps its velocity and
moves it along, until the velocity is zero; from then on the player stays where
it is, and no event tells of a move.
-/

namespace Brawololo.RestingPlayers

open GameTypes EntityStore Simulation Simulation.GameSimulation SimulationStages EntityIdentity
open RowRules PlayerMotion MovementBounds DiagonalSpeed DefeatedPlayers Damping Runs
open CombatBooks (queuedBy)

/-! The motion of a player without an input. -/

def coast (motion : Motion) : Motion := integrated {} none motion

/-- `ApplyFriction` on one axis. -/
def friction : Int → Int := damp 72 100

/-- On the map, and no faster than the limit on each axis. -/
structure InRange (motion : Motion) : Prop where
  onMap : OnMap {} motion.1
  limited : Limited kLimit motion.2

/-- The ticks in which friction stops a player at the limit. -/
def kRestTicks : Nat := 37

theorem friction_stops : friction^[kRestTicks] kLimit = 0 := by decide

theorem friction_uncut {speed : Int} (within : -kLimit ≤ speed ∧ speed ≤ kLimit) :
    cut (friction speed) = friction speed := by
  have size : (friction speed).natAbs = speed.natAbs * 72 / 100 := damp_natAbs 72 100 speed
  unfold cut
  unfold kLimit at within ⊢
  omega

theorem coast_velocity {motion : Motion} (inRange : InRange motion) :
    (coast motion).2.vx.toInt = friction motion.2.vx.toInt ∧
      (coast motion).2.vy.toInt = friction motion.2.vy.toInt := by
  obtain ⟨x, y⟩ := slowed_value motion.2
  exact ⟨x.trans (friction_uncut inRange.limited.1), y.trans (friction_uncut inRange.limited.2)⟩

theorem coast_in_range (motion : Motion) : InRange (coast motion) :=
  ⟨(clamp_to_map_yields _).2, cut_yields _⟩

/-- The cut to the map leaves a position on it alone. -/
theorem clamp_within {place high : Fixed} (low : 0 ≤ place) (below : place < high)
    (edge : (high - 1).toInt = high.toInt - 1) : clampFixed place 0 (high - 1) = place := by
  rw [Int32.le_iff_toInt_le, Int32.toInt_zero] at low
  rw [Int32.lt_iff_toInt_lt] at below
  rw [← Int32.toInt_inj, clamp_toInt, Int32.toInt_zero, edge]
  split_ifs <;> omega

/-- An axis without speed keeps its position. -/
theorem coast_still {motion : Motion} (inRange : InRange motion) :
    (motion.2.vx = 0 → (coast motion).1.x = motion.1.x) ∧
      (motion.2.vy = 0 → (coast motion).1.y = motion.1.y) := by
  obtain ⟨⟨left, right⟩, top, bottom⟩ := inRange.onMap
  unfold coast integrated steer
  dsimp only [clampToMap, travel]
  constructor
  · intro still
    rw [still, show integrateFixedPerSecond _ _ = 0 from rfl, Int32.add_zero]
    exact clamp_within left right rfl
  · intro still
    rw [still, show integrateFixedPerSecond _ _ = 0 from rfl, Int32.add_zero]
    exact clamp_within top bottom rfl

theorem still_iff (velocity : VelocityComponent) :
    velocity = {} ↔ velocity.vx.toInt = 0 ∧ velocity.vy.toInt = 0 := by
  obtain ⟨vx, vy⟩ := velocity
  rw [VelocityComponent.mk.injEq, ← Int32.toInt_inj, ← Int32.toInt_inj, Int32.toInt_zero]

/-- A motion at rest goes nowhere. -/
theorem rest_is_fixed {place : TransformComponent} (inRange : InRange (place, {})) :
    coast (place, {}) = (place, {}) := by
  obtain ⟨x, y⟩ := coast_still inRange
  obtain ⟨vx, vy⟩ := coast_velocity inRange
  have still : (coast (place, {})).2 = {} := by
    rw [still_iff, vx, vy]
    exact ⟨damp_zero 72 100, damp_zero 72 100⟩
  have stays : (coast (place, {})).1 = place := by
    cases place
    exact (TransformComponent.mk.injEq ..).mpr ⟨x rfl, y rfl⟩
  exact Prod.ext stays still

/-! Tick after tick. -/

theorem coasted_velocity (ticks : Nat) {motion : Motion} (inRange : InRange motion) :
    (coast^[ticks] motion).2.vx.toInt = friction^[ticks] motion.2.vx.toInt ∧
      (coast^[ticks] motion).2.vy.toInt = friction^[ticks] motion.2.vy.toInt := by
  induction ticks generalizing motion with
  | zero => exact ⟨rfl, rfl⟩
  | succ ticks ih =>
      obtain ⟨x, y⟩ := coast_velocity inRange
      simp only [Function.iterate_succ_apply, ← x, ← y]
      exact ih (coast_in_range motion)

theorem coasted_stops {ticks : Nat} (enough : kRestTicks ≤ ticks) {motion : Motion}
    (inRange : InRange motion) : (coast^[ticks] motion).2 = {} := by
  obtain ⟨x, y⟩ := coasted_velocity ticks inRange
  have stopped {speed : Int} (within : -kLimit ≤ speed ∧ speed ≤ kLimit) :
      friction^[ticks] speed = 0 := by
    refine damped_out_within friction_stops ?_ enough
    unfold kLimit at within ⊢
    omega
  rw [still_iff, x, y]
  exact ⟨stopped inRange.limited.1, stopped inRange.limited.2⟩

/-! The player in the simulation. -/

/-- The row of a living player between two ticks, with no intent left. -/
structure Unsteered (motion : Motion) (row : Components) : Prop where
  moves : Moves row motion
  intent : row.inputIntent = none
  projectile : row.projectile = none

/-- A living player of a server under the default configuration: its velocity is
within the limit and its position on the map. -/
structure Idle (sim : GameSimulation) (entity : Entity) (motion : Motion) : Prop where
  configured : sim.config = {}
  row : ∃ row, sim.registry.get? entity = some row ∧ Unsteered motion row
  inRange : InRange motion

/-- The call brings the player no input and no defeat. -/
def LeftAlone (entity : Entity) (sim : GameSimulation) : ServerCall → Prop
  | .tick order => inputsFor sim entity = [] ∧
      ∀ row, (beforeRespawns order sim).registry.get? entity = some row → row.defeated = false
  | _ => True

section Tick

variable {sim : GameSimulation} {entity : Entity} {motion : Motion}

theorem unsteered_coasts (configured : sim.config = {}) (noInput : inputsFor sim entity = [])
    {row : Components} (unsteered : Unsteered motion row) :
    Moves (movedRow sim entity row) (coast motion) := by
  have moved := intent_moves {} unsteered.moves
  rw [unsteered.intent] at moved
  unfold movedRow
  rw [noInput, configured]
  dsimp only [applyInputs, List.foldl_nil]
  rw [if_pos unsteered.moves.player]
  exact clear_intent_moves moved

/-- No intent is left after a tick. -/
theorem tick_clears (order : LoopOrder) (sim : GameSimulation) :
    EveryRow (fun row => row.inputIntent = none) (tickFixed order sim) := by
  have moved : EveryRow (fun row => row.inputIntent = none)
      (processInputs order (advanceClock sim)) := by
    intro entity later present
    rw [process_inputs_row] at present
    obtain ⟨row, _, rfl⟩ := Option.map_eq_some_iff.mp present
    obtain ⟨_, _, _, _, changed, _⟩ := moved_row_changes (advanceClock sim) entity row
    rw [changed]
  have warmed : EveryRow (fun row => row.inputIntent = none) (beforeFlights order sim) := by
    refine process_warmups_every_row order _ ?_ (fun _ _ _ _ _ _ => rfl) moved
    intro row clear
    obtain ⟨_, finished⟩ := finish_warmup_changes _ _ row
    rw [finished]
    exact clear
  have flown : EveryRow (fun row => row.inputIntent = none) (beforeRespawns order sim) := by
    refine process_projectiles_every_row order _ ?_ ?_ warmed
    · intro row _ _ clear _ _ _
      obtain ⟨_, isFlown, _⟩ := fly_changes _ row
      rw [isFlown]
      exact clear
    · intro projectileId projectile row clear
      obtain ⟨_, damaged, _⟩ := damage_changes _ _ projectileId projectile row
      rw [damaged]
      exact clear
  refine for_each_every_row order .respawns inRespawnView _ _ ?_ flown
  intro row clear
  obtain ⟨_, _, _, _, respawned, _⟩ := respawn_changes _ _ row
  rw [respawned]
  exact clear

/-- A tick without an input lets the player coast. -/
theorem tick_coasts (order : LoopOrder) (idle : Idle sim entity motion)
    (alone : LeftAlone entity sim (.tick order)) :
    Idle (tickFixed order sim) entity (coast motion) := by
  obtain ⟨configured, ⟨row, present, unsteered⟩, _⟩ := idle
  obtain ⟨noInput, undefeated⟩ := alone
  have started : (advanceClock sim).registry.get? entity = some row := present
  obtain ⟨_, _, later, found, fared⟩ :=
    moved_fares order (advanceClock sim) started unsteered.projectile
  have config : (advanceClock sim).config = {} := configured
  have coasts := unsteered_coasts config noInput unsteered
  obtain ⟨_, _, _, _, changed, _⟩ := moved_row_changes (advanceClock sim) entity row
  have alive : later.defeated = false := undefeated later found
  have stays : (tickFixed order sim).registry.get? entity = some later :=
    living_stays order _ found alive
  refine ⟨(server_step_config sim (.tick order)).trans configured, ⟨later, stays, ?_⟩,
    coast_in_range motion⟩
  constructor
  case moves =>
    exact ⟨by rw [fared.identity]; exact coasts.named, fared.transform.trans coasts.placed,
      fared.velocity.trans coasts.moving, by rw [fared.player]; exact coasts.player, alive⟩
  case intent => exact tick_clears order sim entity later stays
  case projectile =>
    rw [fared.projectile, changed]
    exact unsteered.projectile

/-- The other calls leave the player alone. -/
theorem call_idles (call : ServerCall) (noTick : ∀ order, call ≠ .tick order)
    (idle : Idle sim entity motion) : Idle (serverStep sim call) entity motion := by
  obtain ⟨configured, ⟨row, present, unsteered⟩, inRange⟩ := idle
  exact ⟨(server_step_config sim call).trans configured,
    ⟨row, (quiet_call sim call noTick).1 entity row present, unsteered⟩, inRange⟩

end Tick

/-- In every state of a server a living player is idle until its next input. -/
theorem server_players_idle (calls : List ServerCall) {entity : Entity} {row : Components}
    (present : (serverRun {} calls).registry.get? entity = some row) (living : Living row) :
    ∃ motion, Idle (serverRun {} calls) entity motion := by
  have bounds := run_in_bounds calls entity row present
  have fit := ProjectileLifecycle.server_run_airworthy {} calls entity row present
  have clear : EveryRow (fun row => row.inputIntent = none) (serverRun {} calls) := by
    apply run_invariant serverStep
    · intro sim call clear
      cases call with
      | login command => exact submit_login_every_row sim command (fun _ _ => rfl) clear
      | input packet => exact submit_input_every_row sim packet clear
      | tick order => exact tick_clears order sim
    · intro entity row present
      simp at present
  obtain ⟨place, isPlace, onMap⟩ := bounds.placed
  obtain ⟨velocity, isVelocity, _, limited⟩ := bounds.moving
  have moves : Moves row (place, velocity) :=
    ⟨fit.body.1, isPlace, isVelocity, living.1, living.2⟩
  exact ⟨(place, velocity), server_run_config {} calls,
    ⟨row, present, moves, clear entity row present, fit.apart living.1⟩, onMap, limited living.1⟩

/-! The moves that a tick tells of. -/

/-- The move is that of a row other than the entity's. -/
def AnothersMove (entity : Entity) (sim : GameSimulation) (moved : PlayerMoved) : Prop :=
  ∃ other row, other ≠ entity ∧ sim.registry.get? other = some row ∧
    row.identity = some { id := moved.entityId }

theorem integrate_told {config : SimulationConfig} {row : Components} {moved : PlayerMoved}
    (told : .playerMoved moved ∈ (integrateMovement config row).2) :
    row.identity = some { id := moved.entityId } := by
  unfold integrateMovement at told
  split at told
  · next identity _ _ isIdentity _ _ =>
      rw [isIdentity]
      split at told
      · cases told
      · dsimp only at told
        split at told
        · cases List.mem_singleton.mp told
          rfl
        · cases told
  · cases told

/-- A player that stays where it is tells of no move. -/
theorem fixed_silent {motion : Motion} {row : Components} (unsteered : Unsteered motion row)
    (fixed : coast motion = motion) : (integrateMovement {} row).2 = [] := by
  obtain ⟨identity, isIdentity⟩ := Option.isSome_iff_exists.mp unsteered.moves.named
  have same : clampToMap {} (travel {} (steer {} none motion.2) motion.1) = motion.1 :=
    congrArg Prod.fst fixed
  unfold integrateMovement
  rw [isIdentity, unsteered.moves.placed, unsteered.moves.moving, unsteered.intent]
  dsimp only
  rw [if_neg (by rw [unsteered.moves.living]; exact Bool.false_ne_true), same, if_neg]
  simp

/-- The moves that a tick tells of are those of the rows with their inputs applied. -/
theorem tick_told_moves (order : LoopOrder) (sim : GameSimulation) :
    ∃ added, Queued sim (tickFixed order sim) added ∧ ∀ moved, .playerMoved moved ∈ added →
      ∃ entity row, sim.registry.get? entity = some row ∧ .playerMoved moved ∈
        (integrateMovement sim.config (applyInputs sim.config (advanceClock sim).timeMs
          (inputsFor sim entity) row)).2 := by
  obtain ⟨early, queuedEarly, allEarly⟩ :=
    apply_all_pending_queues (advanceClock sim) sim.pendingInputs
  have tables := apply_all_pending_tables (advanceClock sim) sim.pendingInputs
  have queuedMoves := for_each_queued (integrateMovement
    (sim.pendingInputs.foldl applyPendingInput (advanceClock sim)).config) order
    .integrateMovement (fun row => row.player.isSome)
    { sim.pendingInputs.foldl applyPendingInput (advanceClock sim) with pendingInputs := [] }
  obtain ⟨shots, queuedShots, allShots⟩ :=
    process_warmups_queues order (processInputs order (advanceClock sim))
  obtain ⟨hits, queuedHits, allHits⟩ := process_projectiles_queues order (beforeFlights order sim)
  obtain ⟨late, queuedLate, allLate⟩ := process_respawns_queues order (beforeRespawns order sim)
  refine ⟨_, (((queuedEarly.trans queuedMoves).trans queuedShots).trans queuedHits).trans queuedLate,
    ?_⟩
  intro moved member
  simp only [List.mem_append] at member
  rcases member with (((told | told) | told) | told) | told
  · obtain ⟨_, isWarmup⟩ := allEarly _ told
    cases isWarmup
  · obtain ⟨entity, _, told⟩ := List.mem_flatMap.mp told
    rw [apply_all_pending_row, tables.config] at told
    cases present : (advanceClock sim).registry.get? entity with
    | none => simp [present] at told
    | some row =>
        rw [present] at told
        exact ⟨entity, row, present, told⟩
  · rcases allShots _ told with ⟨_, isShot⟩ | ⟨_, isShot⟩ <;> cases isShot
  · rcases allHits _ told with ⟨_, isHit⟩ | ⟨_, isHit⟩ | ⟨_, isHit⟩ <;> cases isHit
  · obtain ⟨_, isRespawn⟩ := allLate _ told
    cases isRespawn

/-- No tick tells of a move of a player at rest. -/
theorem rest_silent (order : LoopOrder) {sim : GameSimulation} {entity : Entity}
    {place : TransformComponent} (idle : Idle sim entity (place, {}))
    (noInput : inputsFor sim entity = []) {moved : PlayerMoved} (told : .playerMoved moved ∈ queuedBy sim (tickFixed order sim)) :
    AnothersMove entity sim moved := by
  obtain ⟨configured, ⟨own, isOwn, unsteered⟩, inRange⟩ := idle
  obtain ⟨added, queued, moves⟩ := tick_told_moves order sim
  rw [queuedBy, queued, List.drop_left] at told
  obtain ⟨other, row, present, told⟩ := moves moved told
  obtain ⟨_, _, _, applied⟩ :=
    apply_inputs_changes sim.config (advanceClock sim).timeMs (inputsFor sim other) row
  have named := integrate_told told
  rw [applied] at named
  refine ⟨other, row, ?_, present, named⟩
  rintro rfl
  -- The player takes no input, and its own movement is silent.
  rw [isOwn] at present
  cases present
  rw [noInput, configured] at told
  dsimp only [applyInputs, List.foldl_nil] at told
  rw [fixed_silent unsteered (rest_is_fixed inRange)] at told
  cases told

/-! Runs. -/

def isTick : ServerCall → Bool
  | .tick _ => true
  | _ => false

def ticksIn (calls : List ServerCall) : Nat := calls.countP isTick

def motionOf (sim : GameSimulation) (entity : Entity) : Option Motion :=
  (sim.registry.get? entity).bind fun row =>
    row.transform.bind fun place => row.velocity.map fun velocity => (place, velocity)

/-- Friction acts on each axis, and an axis without speed keeps its position. -/
structure Slows (before after : Motion) : Prop where
  vx : Slower before.2.vx.toInt after.2.vx.toInt
  vy : Slower before.2.vy.toInt after.2.vy.toInt
  x : before.2.vx = 0 → after.1.x = before.1.x
  y : before.2.vy = 0 → after.1.y = before.1.y

/-- A tick slows the player down, and no other call moves it. -/
def Eases (entity : Entity) (sim : GameSimulation) : ServerCall → Prop
  | .tick order => ∃ before after, motionOf sim entity = some before ∧
      motionOf (tickFixed order sim) entity = some after ∧ Slows before after
  | call => motionOf (serverStep sim call) entity = motionOf sim entity

/-- Every move that the call tells of is another's. -/
def Unmoved (entity : Entity) (sim : GameSimulation) (call : ServerCall) : Prop :=
  ∀ moved, .playerMoved moved ∈ queuedBy sim (serverStep sim call) → AnothersMove entity sim moved

/-- The player comes to rest in the run. -/
structure ComesToRest (entity : Entity) (sim : GameSimulation) (calls : List ServerCall) :
    Prop where
  slows : EveryStep serverStep (Eases entity) sim calls
  stops : kRestTicks ≤ ticksIn calls →
    ∃ place, motionOf (run serverStep sim calls) entity = some (place, {})
  /-- At rest the player stays where it is, and nothing tells of a move of it. -/
  rests : ∀ earlier later place, calls = earlier ++ later →
    motionOf (run serverStep sim earlier) entity = some (place, {}) →
    motionOf (run serverStep sim calls) entity = some (place, {}) ∧
      EveryStep serverStep (Unmoved entity) (run serverStep sim earlier) later

section Runs

variable {sim : GameSimulation} {entity : Entity} {motion : Motion}

theorem Idle.motion_of (idle : Idle sim entity motion) : motionOf sim entity = some motion := by
  obtain ⟨_, ⟨row, present, unsteered⟩, _⟩ := idle
  unfold motionOf
  rw [present, Option.bind_some, unsteered.moves.placed, Option.bind_some, unsteered.moves.moving]
  rfl

theorem coast_slows (inRange : InRange motion) : Slows motion (coast motion) := by
  obtain ⟨vx, vy⟩ := coast_velocity inRange
  obtain ⟨x, y⟩ := coast_still inRange
  exact ⟨vx ▸ damp_slower (by decide) _, vy ▸ damp_slower (by decide) _, x, y⟩

/-- One call coasts the player by a tick or not at all. -/
theorem call_coasts (call : ServerCall) (idle : Idle sim entity motion)
    (alone : LeftAlone entity sim call) :
    Idle (serverStep sim call) entity (coast^[ticksIn [call]] motion) := by
  cases call with
  | login command => exact call_idles (.login command) (by simp) idle
  | input packet => exact call_idles (.input packet) (by simp) idle
  | tick order => exact tick_coasts order idle alone

theorem run_coasts (calls : List ServerCall) (idle : Idle sim entity motion)
    (alone : EveryStep serverStep (LeftAlone entity) sim calls) :
    Idle (run serverStep sim calls) entity (coast^[ticksIn calls] motion) := by
  induction calls generalizing sim motion with
  | nil => exact idle
  | cons call calls ih =>
      have first := call_coasts call idle alone.1
      have rest := ih first alone.2
      rw [← Function.iterate_add_apply] at rest
      have split : ticksIn (call :: calls) = ticksIn calls + ticksIn [call] := by
        unfold ticksIn
        rw [List.countP_cons, List.countP_singleton]
      rw [split]
      exact rest

theorem idle_eases (call : ServerCall) (idle : Idle sim entity motion)
    (alone : LeftAlone entity sim call) : Eases entity sim call := by
  have later := (call_coasts call idle alone).motion_of
  cases call with
  | login command => exact later.trans idle.motion_of.symm
  | input packet => exact later.trans idle.motion_of.symm
  | tick order => exact ⟨motion, coast motion, idle.motion_of, later, coast_slows idle.inRange⟩

theorem rest_unmoved {place : TransformComponent} (call : ServerCall)
    (idle : Idle sim entity (place, {})) (alone : LeftAlone entity sim call) :
    Unmoved entity sim call := by
  intro moved told
  -- Logins and inputs tell of no move at all.
  have quiet (noTick : ∀ order, call ≠ .tick order) : AnothersMove entity sim moved := by
    obtain ⟨added, queued, nothing⟩ := (quiet_call sim call noTick).2
    rw [queuedBy, queued, List.drop_left] at told
    exact absurd (nothing _ told) (by simp [subjectOf])
  cases call with
  | login command => exact quiet (by simp)
  | input packet => exact quiet (by simp)
  | tick order => exact rest_silent order idle alone.1 told

/-- A player that is left alone comes to rest. -/
theorem idle_players_rest (calls : List ServerCall) (idle : Idle sim entity motion)
    (alone : EveryStep serverStep (LeftAlone entity) sim calls) :
    ComesToRest entity sim calls := by
  constructor
  case slows =>
    apply every_step_when serverStep (fun sim => ∃ motion, Idle sim entity motion)
      (LeftAlone entity) (Eases entity)
    · exact fun sim call ⟨motion, idle⟩ alone => ⟨_, call_coasts call idle alone⟩
    · exact fun sim call ⟨motion, idle⟩ alone => idle_eases call idle alone
    · exact ⟨motion, idle⟩
    · exact alone
  case stops =>
    intro enough
    have rested := (run_coasts calls idle alone).motion_of
    have stopped := coasted_stops enough idle.inRange
    exact ⟨(coast^[ticksIn calls] motion).1, by rw [rested, ← stopped]⟩
  case rests =>
    rintro earlier later place rfl atRest
    rw [every_step_append] at alone
    have idleThen := run_coasts earlier idle alone.1
    have isPlace := Option.some.inj (idleThen.motion_of.symm.trans atRest)
    rw [isPlace] at idleThen
    have fixed : coast (place, {}) = (place, {}) := rest_is_fixed idleThen.inRange
    constructor
    · rw [run_append, (run_coasts later idleThen alone.2).motion_of,
        Function.iterate_fixed fixed]
    · apply every_step_when serverStep (fun sim => Idle sim entity (place, {}))
        (LeftAlone entity) (Unmoved entity)
      · intro sim call idle alone
        have kept := call_coasts call idle alone
        rw [Function.iterate_fixed fixed] at kept
        exact kept
      · exact fun sim call idle alone => rest_unmoved call idle alone
      · exact idleThen
      · exact alone.2

end Runs

/-- A player that has moved along one axis for a tick. -/
def started : GameSimulation :=
  serverRun {} [.login { header := { clientId := 1 } },
    .input { header := { clientId := 1, sequence := 1 }, input := { moveX := 1 } }, .tick .stored]

theorem idle_players_rest_started :
    motionOf started 0 = some ({ x := 1408665, y := 1280000 }, { vx := 41600 }) ∧
      ComesToRest 0 started [.tick .stored, .tick .stored] := by
  have moving : motionOf started 0 = some ({ x := 1408665, y := 1280000 }, { vx := 41600 }) := by
    decide +kernel
  have living : (started.registry.get? 0).any
      (fun row => row.player.isSome && !row.defeated) = true := by decide +kernel
  obtain ⟨row, present, isLiving⟩ := (Option.any_eq_true _ _).mp living
  obtain ⟨motion, idle⟩ := server_players_idle _ present (by simpa [Living] using isLiving)
  -- The player survives both ticks, in which no input is pending.
  have survives (sim : GameSimulation) (alive : ((beforeRespawns .stored sim).registry.get? 0).all
      (fun row => !row.defeated) = true) (row : Components)
      (found : (beforeRespawns .stored sim).registry.get? 0 = some row) : row.defeated = false := by
    rw [found] at alive
    simpa using alive
  have alone : EveryStep serverStep (LeftAlone 0) started [.tick .stored, .tick .stored] :=
    ⟨⟨by decide +kernel, survives started (by decide +kernel)⟩,
     ⟨by decide +kernel, survives (tickFixed .stored started) (by decide +kernel)⟩, trivial⟩
  exact ⟨moving, idle_players_rest [.tick .stored, .tick .stored] idle alone⟩

end Brawololo.RestingPlayers
