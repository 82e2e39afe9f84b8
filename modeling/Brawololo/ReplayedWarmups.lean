import Brawololo.SnapshotOverwrite

/-!
Which inputs start the warmups that a client predicts. A tick and a replay apply
inputs one after another, and the first pressed button that finds an idle weapon
starts a warmup; a watched run charges each warmup to its input. No input is
charged twice as long as no tick and no replay finds the weapon idle again while
the first pressed button it applies was charged before.
-/

namespace Brawololo.ReplayedWarmups

open GameTypes EntityStore Simulation Simulation.GameSimulation SimulationStages
open SimulationSnapshots Client ClientTables LocalIdentity SnapshotOverwrite

/-! The statement. -/

def warmupIn : DomainEvent → Option WeaponWarmupStarted
  | .weaponWarmupStarted event => some event
  | _ => none

/-- The warmups that were queued between two states. -/
def warmupsBetween (before after : GameSimulation) : List WeaponWarmupStarted :=
  (after.events.drop before.events.length).filterMap warmupIn

/-- A warmup and the input whose application queued it. -/
structure Cause where
  packet : ClientInputPacket
  warmup : WeaponWarmupStarted
  deriving DecidableEq

/-- The causes in a loop that applies inputs. -/
def causes (apply : GameSimulation → ClientInputPacket → GameSimulation) :
    GameSimulation → List ClientInputPacket → List Cause
  | _, [] => []
  | sim, packet :: rest =>
      (warmupsBetween sim (apply sim packet)).map (fun warmup => ⟨packet, warmup⟩) ++
        causes apply (apply sim packet) rest

/-- The simulation that a replay starts from, and the inputs that it applies. -/
def replayStart (order : LoopOrder) (runtime : ClientRuntime) (snapshot : SnapshotDTO) :
    GameSimulation :=
  applySnapshot order runtime.simulation snapshot runtime.localClientId

def replayed (runtime : ClientRuntime) (snapshot : SnapshotDTO) : List ClientInputPacket :=
  (runtime.pendingInputs.acknowledgeThrough snapshot.ackedInputSequence).unackedInputs

/-- What a call queues, and what its inputs cause. -/
def callWarmups (runtime : ClientRuntime) (call : ClientCall) : List WeaponWarmupStarted :=
  match call with
  | .drainEvents => []
  | call => warmupsBetween runtime.simulation (clientStep runtime call).simulation

def callCauses (runtime : ClientRuntime) : ClientCall → List Cause
  | .tickSimulation _ =>
      causes applyPendingInput (advanceClock runtime.simulation) runtime.simulation.pendingInputs
  | .applyServerSnapshot order snapshot =>
      causes replayLocalInput (replayStart order runtime snapshot) (replayed runtime snapshot)
  | _ => []

/-- A runtime, the warmups it has ever queued, and their causes. -/
structure Watched where
  runtime : ClientRuntime
  queued : List WeaponWarmupStarted := []
  caused : List Cause := []

def watchStep (watched : Watched) (call : ClientCall) : Watched where
  runtime := clientStep watched.runtime call
  queued := watched.queued ++ callWarmups watched.runtime call
  caused := watched.caused ++ callCauses watched.runtime call

def watchRun (localClientId : ClientId) (config : SimulationConfig) (calls : List ClientCall) :
    Watched :=
  Runs.run watchStep { runtime := .new localClientId config } calls

namespace Watched

/-- The inputs that started a warmup, with repetitions. -/
def charged (watched : Watched) : List ClientInputPacket := watched.caused.map Cause.packet

end Watched

/-- No input has started more than one warmup. -/
def Silent (watched : Watched) : Prop := ∀ packet, watched.charged.count packet ≤ 1

/-! The condition. -/

/-- A living player with an idle weapon that the table knows. -/
def ready (config : SimulationConfig) (row : Components) : Bool :=
  !row.defeated &&
    match row.weapon, row.identity with
    | some weapon, some _ =>
        decide (weapon.type ≠ .none) && !weapon.warming &&
          (findWeaponDefinition config.weapons weapon.type).isSome
    | _, _ => false

def clientReady (sim : GameSimulation) (clientId : ClientId) : Bool :=
  (sim.inputTarget clientId).any fun entity =>
    (sim.registry.get? entity).any (ready sim.config)

def firstFire (packets : List ClientInputPacket) : Option ClientInputPacket :=
  packets.find? fun packet => packet.input.fire

/-- If the weapon of the local player is idle, the first pressed button has
started no warmup yet. -/
def Fresh (watched : Watched) (sim : GameSimulation) (packets : List ClientInputPacket) : Prop :=
  clientReady sim watched.runtime.localClientId = true →
    ∀ packet, firstFire packets = some packet → packet ∉ watched.charged

/-- What is asked of a call: of a tick at the state before it, of a snapshot at the
state that it leaves to the replay. -/
def CallIsFresh (watched : Watched) : ClientCall → Prop
  | .tickSimulation _ =>
      Fresh watched watched.runtime.simulation watched.runtime.simulation.pendingInputs
  | .applyServerSnapshot order snapshot =>
      Fresh watched (replayStart order watched.runtime snapshot) (replayed watched.runtime snapshot)
  | _ => True

/-! Warmups among the queued events. -/

theorem warmups_of_queued {before after : GameSimulation} {added : EventList}
    (queued : Queued before after added) :
    warmupsBetween before after = added.filterMap warmupIn := by
  unfold warmupsBetween
  rw [queued, List.drop_left]

theorem warmups_between_trans {first second third : GameSimulation}
    (left : Appends first second) (right : Appends second third) :
    warmupsBetween first third = warmupsBetween first second ++ warmupsBetween second third := by
  obtain ⟨one, toSecond⟩ := left
  obtain ⟨two, toThird⟩ := right
  rw [warmups_of_queued toSecond, warmups_of_queued toThird,
    warmups_of_queued (toSecond.trans toThird), List.filterMap_append]

/-- Events that start no warmup. -/
def NoWarmup (event : DomainEvent) : Prop := warmupIn event = none

theorem warmups_of_quiet {before after : GameSimulation}
    (quiet : QueuesOnly NoWarmup before after) : warmupsBetween before after = [] := by
  obtain ⟨added, queued, silent⟩ := quiet
  rw [warmups_of_queued queued]
  exact List.filterMap_eq_nil_iff.mpr silent

/-! Applying one input. -/

/-- The update of the row that an input is for. -/
abbrev InputUpdate :=
  SimulationConfig → TimestampMs → ClientInputPacket → Components → Components × EventList

def applyTo (update : InputUpdate) (sim : GameSimulation) (packet : ClientInputPacket) :
    GameSimulation :=
  match sim.inputTarget packet.header.clientId with
  | none => sim
  | some entity => sim.updateEntity (update sim.config sim.timeMs packet) entity

/-- A pressed button starts one warmup if the row is ready, and no warmup is
started and no row made ready otherwise. -/
structure Latches (update : InputUpdate) : Prop where
  starts : ∀ config timeMs packet row,
    ((update config timeMs packet row).2.filterMap warmupIn).length =
      if packet.input.fire && ready config row then 1 else 0
  readies : ∀ config timeMs packet row,
    ready config (update config timeMs packet row).1 = (ready config row && !packet.input.fire)

theorem start_warmup_latches (config : SimulationConfig) (timeMs : TimestampMs) (row : Components)
    (living : row.defeated = false) :
    ((startWarmup config timeMs row).2.filterMap warmupIn).length =
      (if ready config row then 1 else 0) ∧
    ready config (startWarmup config timeMs row).1 = false := by
  unfold startWarmup
  cases isWeapon : row.weapon with
  | none => simp [ready, isWeapon]
  | some weapon =>
      cases named : row.identity with
      | none => simp [ready, isWeapon, named]
      | some identity =>
          cases found : findWeaponDefinition config.weapons weapon.type with
          | none => simp [ready, isWeapon, named, found]
          | some definition =>
              by_cases busy : weapon.type = .none ∨ weapon.warming = true
              · have notReady : ready config row = false := by
                  rcases busy with unarmed | warming
                  · simp [ready, isWeapon, named, unarmed]
                  · simp [ready, isWeapon, named, warming]
                simp [found, busy, notReady]
              · have isReady : ready config row = true := by
                  rw [not_or] at busy
                  simp [ready, living, isWeapon, named, found, busy]
                constructor
                · simp [found, busy, isReady, warmupIn]
                · simp [found, busy, ready]

theorem apply_input_latches : Latches applyInputToEntity where
  starts config timeMs packet row := by
    have same : ready config (takeIntent packet.input row) = ready config row := rfl
    cases living : row.defeated with
    | true => simp [applyInputToEntity, ready, living]
    | false =>
        have latch := start_warmup_latches config timeMs (takeIntent packet.input row) living
        cases fire : packet.input.fire with
        | false => simp [applyInputToEntity, living, fire]
        | true => simpa [applyInputToEntity, living, fire, same] using latch.1
  readies config timeMs packet row := by
    have same : ready config (takeIntent packet.input row) = ready config row := rfl
    cases living : row.defeated with
    | true => simp [applyInputToEntity, ready, living]
    | false =>
        have latch := start_warmup_latches config timeMs (takeIntent packet.input row) living
        cases fire : packet.input.fire with
        | false => simp [applyInputToEntity, living, fire, same]
        | true => simpa [applyInputToEntity, living, fire] using latch.2

/-- Integrating and removing the intent starts nothing and readies nothing. -/
theorem replay_latches : Latches replayInput where
  starts config timeMs packet row := by
    have still : (integrateMovement config
        (applyInputToEntity config timeMs packet row).1).2.filterMap warmupIn = [] := by
      apply List.filterMap_eq_nil_iff.mpr
      intro event queued
      obtain ⟨moved, rfl⟩ := integrate_events config _ event queued
      rfl
    have split : (replayInput config timeMs packet row).2 =
        (applyInputToEntity config timeMs packet row).2 ++
          (integrateMovement config (applyInputToEntity config timeMs packet row).1).2 := rfl
    rw [split, List.filterMap_append, still, List.append_nil]
    exact apply_input_latches.starts config timeMs packet row
  readies config timeMs packet row := by
    obtain ⟨transform, velocity, moved, _⟩ := integrate_changes config
      (applyInputToEntity config timeMs packet row).1
    have same : ready config (replayInput config timeMs packet row).1 =
        ready config (applyInputToEntity config timeMs packet row).1 := by
      unfold replayInput
      dsimp only
      rw [moved]
      rfl
    rw [same]
    exact apply_input_latches.readies config timeMs packet row

/-! A loop that applies inputs. -/

section Loops

variable {update : InputUpdate}

theorem apply_to_tables (update : InputUpdate) (sim : GameSimulation) (packet : ClientInputPacket) :
    SameTables sim (applyTo update sim packet) := by
  unfold applyTo
  split
  · exact SameTables.refl sim
  · exact update_entity_tables _ _ _

theorem apply_to_appends (update : InputUpdate) (sim : GameSimulation)
    (packet : ClientInputPacket) : Appends sim (applyTo update sim packet) := by
  unfold applyTo
  split
  · exact Appends.refl sim
  · exact update_entity_appends _ _ _

/-- The input of a client starts one warmup if its player is ready and the button
is pressed; then the player is ready no more. -/
theorem apply_to_latches (latches : Latches update) (sim : GameSimulation)
    (packet : ClientInputPacket) :
    (warmupsBetween sim (applyTo update sim packet)).length =
      (if packet.input.fire && clientReady sim packet.header.clientId then 1 else 0) ∧
    clientReady (applyTo update sim packet) packet.header.clientId =
      (clientReady sim packet.header.clientId && !packet.input.fire) := by
  have tables := apply_to_tables update sim packet
  have unchanged : warmupsBetween sim sim = [] := warmups_of_quiet (QueuesOnly.refl sim)
  cases target : sim.inputTarget packet.header.clientId with
  | none =>
      have same : applyTo update sim packet = sim := by
        unfold applyTo
        rw [target]
      rw [same, unchanged]
      simp [clientReady, target]
  | some entity =>
      have isUpdate : applyTo update sim packet =
          sim.updateEntity (update sim.config sim.timeMs packet) entity := by
        unfold applyTo
        rw [target]
      have afterTarget : (applyTo update sim packet).inputTarget packet.header.clientId =
          some entity := (tables.inputTarget _).trans target
      have queued := update_entity_queued (update sim.config sim.timeMs packet) sim entity
      have row := update_entity_row (update sim.config sim.timeMs packet) sim entity entity
      rw [← isUpdate] at queued row
      rw [if_pos rfl] at row
      rw [warmups_of_queued queued]
      unfold clientReady
      rw [afterTarget, target, tables.config, Option.any_some, Option.any_some, row]
      cases sim.registry.get? entity with
      | none => simp
      | some before => exact ⟨latches.starts _ _ packet before, latches.readies _ _ packet before⟩

/-- The causes of a loop name the warmups it queues. -/
theorem causes_warmups (packets : List ClientInputPacket) (sim : GameSimulation) :
    (causes (applyTo update) sim packets).map Cause.warmup =
      warmupsBetween sim (packets.foldl (applyTo update) sim) := by
  induction packets generalizing sim with
  | nil => exact (warmups_of_quiet (QueuesOnly.refl sim)).symm
  | cons packet rest ih =>
      have first := apply_to_appends update sim packet
      have later := Runs.run_relates (applyTo update) Appends Appends.refl Appends.trans
        (apply_to_appends update) (applyTo update sim packet) rest
      rw [causes, List.map_append, List.map_map, ih, List.foldl_cons]
      refine Eq.trans ?_ (warmups_between_trans first later).symm
      congr 1
      exact List.map_id' _

/-- A loop over the inputs of a ready client charges the first pressed button. -/
theorem causes_packets (latches : Latches update) (clientId : ClientId)
    (packets : List ClientInputPacket)
    (mine : ∀ packet ∈ packets, packet.header.clientId = clientId) (sim : GameSimulation) :
    (causes (applyTo update) sim packets).map Cause.packet =
      if clientReady sim clientId then (firstFire packets).toList else [] := by
  induction packets generalizing sim with
  | nil => simp [causes, firstFire]
  | cons packet rest ih =>
      obtain ⟨started, readied⟩ := apply_to_latches latches sim packet
      rw [mine packet List.mem_cons_self] at started readied
      have later := ih (fun other member => mine other (List.mem_cons_of_mem packet member))
        (applyTo update sim packet)
      rw [causes, List.map_append, later, readied, List.map_map]
      cases fire : packet.input.fire with
      | false =>
          rw [fire, Bool.false_and, if_neg Bool.false_ne_true] at started
          rw [List.eq_nil_of_length_eq_zero started]
          simp [firstFire, fire]
      | true =>
          have first : firstFire (packet :: rest) = some packet := by simp [firstFire, fire]
          rw [fire, Bool.true_and] at started
          rw [first]
          cases isReady : clientReady sim clientId with
          | false =>
              rw [isReady, if_neg Bool.false_ne_true] at started
              rw [List.eq_nil_of_length_eq_zero started]
              rfl
          | true =>
              rw [isReady, if_pos rfl] at started
              obtain ⟨warmup, only⟩ := List.length_eq_one_iff.mp started
              rw [only]
              rfl

end Loops

/-! What calls queue besides. -/

theorem shot_no_warmup (event : DomainEvent) (shot : isShotEvent event) : NoWarmup event := by
  rcases shot with ⟨fired, rfl⟩ | ⟨spawned, rfl⟩ <;> rfl

theorem hit_no_warmup (event : DomainEvent) (hit : isHitEvent event) : NoWarmup event := by
  rcases hit with ⟨hit, rfl⟩ | ⟨damaged, rfl⟩ | ⟨died, rfl⟩ <;> rfl

theorem respawn_no_warmup (event : DomainEvent) (respawn : isRespawnEvent event) :
    NoWarmup event := by
  obtain ⟨respawned, rfl⟩ := respawn
  rfl

/-- The stages of a tick after its inputs are applied start no warmup. -/
theorem tick_warmups (order : LoopOrder) (sim : GameSimulation) :
    warmupsBetween sim (tickFixed order sim) =
      (causes applyPendingInput (advanceClock sim) sim.pendingInputs).map Cause.warmup := by
  have applied := Runs.run_relates applyPendingInput Appends Appends.refl Appends.trans
    (apply_to_appends applyInputToEntity) (advanceClock sim) sim.pendingInputs
  have moved : QueuesOnly NoWarmup (Runs.run applyPendingInput (advanceClock sim) sim.pendingInputs)
      (processInputs order (advanceClock sim)) := by
    refine for_each_queues _ order .integrateMovement (fun row => row.player.isSome) NoWarmup
      { sim.pendingInputs.foldl applyPendingInput (advanceClock sim) with pendingInputs := [] } ?_
    intro row event queued
    obtain ⟨moved, rfl⟩ := integrate_events _ row event queued
    rfl
  have fired := QueuesOnly.mono shot_no_warmup
    (process_warmups_queues order (processInputs order (advanceClock sim)))
  have struck := QueuesOnly.mono hit_no_warmup (process_projectiles_queues order
    (processWeaponWarmups order (processInputs order (advanceClock sim))))
  have respawned := QueuesOnly.mono respawn_no_warmup (process_respawns_queues order
    (processProjectiles order (processWeaponWarmups order (processInputs order (advanceClock sim)))))
  have rest := ((moved.trans fired).trans struck).trans respawned
  have clock : QueuesOnly NoWarmup sim (advanceClock sim) := ⟨[], (List.append_nil _).symm, by simp⟩
  have whole := (warmups_between_trans (clock.appends.trans applied) rest.appends).trans
    (congrArg₂ (· ++ ·) (warmups_between_trans clock.appends applied) (warmups_of_quiet rest))
  rw [warmups_of_quiet clock, List.nil_append, List.append_nil] at whole
  exact whole.trans (causes_warmups sim.pendingInputs (advanceClock sim)).symm

theorem apply_state_quiet (serverTimeMs : TimestampMs) (localClientId : ClientId)
    (sim : GameSimulation) (state : EntityStateDTO) :
    QueuesOnly NoWarmup sim (applyEntityState serverTimeMs localClientId sim state) := by
  have players (before : GameSimulation) :
      QueuesOnly NoWarmup before (enterPlayer before state) := by
    unfold enterPlayer
    split
    · exact ⟨[], (List.append_nil _).symm, by simp⟩
    · exact QueuesOnly.refl before
  unfold applyEntityState
  dsimp only
  split
  · refine (update_entity_queues _ NoWarmup _ _ ?_).trans (players _)
    intro row event queued
    rcases List.mem_append.mp queued with corrected | moved
    · split at corrected
      · rw [List.mem_singleton.mp corrected]
        rfl
      · cases corrected
    · split at moved
      · rw [List.mem_singleton.mp moved]
        rfl
      · cases moved
  · have entered : QueuesOnly NoWarmup sim
        (enterInterest localClientId sim state.movement.entityId) := by
      refine ⟨_, rfl, fun event queued => ?_⟩
      rw [List.mem_singleton.mp queued]
      rfl
    refine (entered.trans (update_entity_queues _ NoWarmup _ _ ?_)).trans (players _)
    intro row event queued
    cases queued

theorem leave_interest_quiet (localClientId : ClientId) (sim : GameSimulation)
    (entityId : NetworkEntityId) :
    QueuesOnly NoWarmup sim (leaveInterest localClientId sim entityId) := by
  unfold leaveInterest
  split
  · exact QueuesOnly.refl sim
  · refine ⟨_, rfl, fun event queued => ?_⟩
    rw [List.mem_singleton.mp queued]
    rfl

theorem apply_snapshot_quiet (order : LoopOrder) (sim : GameSimulation) (snapshot : SnapshotDTO)
    (localClientId : ClientId) :
    QueuesOnly NoWarmup sim (applySnapshot order sim snapshot localClientId) := by
  have written := Runs.run_relates (applyEntityState snapshot.serverTimeMs localClientId)
    (QueuesOnly NoWarmup) QueuesOnly.refl QueuesOnly.trans
    (apply_state_quiet snapshot.serverTimeMs localClientId) sim snapshot.entities
  have left := Runs.run_relates (leaveInterest localClientId) (QueuesOnly NoWarmup) QueuesOnly.refl
    QueuesOnly.trans (leave_interest_quiet localClientId)
  refine (written.trans (left _ _)).trans ⟨_, rfl, fun event queued => ?_⟩
  rw [List.mem_singleton.mp queued]
  rfl

theorem quiet_login (sim : GameSimulation) (command : LoginCommand) :
    QueuesOnly NoWarmup sim (submitLogin sim command).1 := by
  rcases submit_login_cases sim command with same | ⟨_, _, joined⟩
  · rw [same]
    exact QueuesOnly.refl sim
  · rw [joined]
    refine ⟨_, rfl, fun event queued => ?_⟩
    rw [List.mem_singleton.mp queued]
    rfl

theorem quiet_input (sim : GameSimulation) (packet : ClientInputPacket) :
    QueuesOnly NoWarmup sim (submitInput sim packet).1 := by
  have unchanged : QueuesOnly NoWarmup sim sim := QueuesOnly.refl sim
  rcases submit_input_cases sim packet with ⟨same, _⟩ | ⟨_, _, accepted⟩
  · rw [same]
    exact unchanged
  · rw [accepted]
    exact unchanged

/-- Every warmup that a call queues has its cause. -/
theorem call_warmups (runtime : ClientRuntime) (call : ClientCall) :
    (callCauses runtime call).map Cause.warmup = callWarmups runtime call := by
  cases call with
  | connectLocal localTimeMs => exact (warmups_of_quiet (quiet_login _ _)).symm
  | queueInput input localTimeMs => exact (warmups_of_quiet (quiet_input _ _)).symm
  | tickSimulation order => exact (tick_warmups order runtime.simulation).symm
  | applyServerSnapshot order snapshot =>
      have applied := apply_snapshot_quiet order runtime.simulation snapshot runtime.localClientId
      have replays := Runs.run_relates replayLocalInput Appends Appends.refl Appends.trans
        (apply_to_appends replayInput) (replayStart order runtime snapshot)
        (replayed runtime snapshot)
      have whole := warmups_between_trans applied.appends replays
      rw [warmups_of_quiet applied, List.nil_append] at whole
      exact (causes_warmups (replayed runtime snapshot) (replayStart order runtime snapshot)).trans
        whole.symm
  | recordTimeSyncSample sample => exact (warmups_of_quiet (QueuesOnly.refl _)).symm
  | drainEvents => rfl

/-! The inputs of a runtime. -/

theorem apply_snapshot_pending (order : LoopOrder) (sim : GameSimulation) (snapshot : SnapshotDTO)
    (localClientId : ClientId) :
    (applySnapshot order sim snapshot localClientId).pendingInputs = sim.pendingInputs := by
  have written := Runs.run_invariant (applyEntityState snapshot.serverTimeMs localClientId)
    (fun after => after.pendingInputs = sim.pendingInputs) ?_ sim rfl snapshot.entities
  · refine Runs.run_invariant (leaveInterest localClientId)
      (fun after => after.pendingInputs = sim.pendingInputs) ?_ _ written _
    intro before entityId same
    unfold leaveInterest
    split
    · exact same
    · exact same
  · intro before state same
    have players (middle : GameSimulation) :
        (enterPlayer middle state).pendingInputs = middle.pendingInputs := by
      unfold enterPlayer
      split <;> rfl
    unfold applyEntityState
    dsimp only
    split
    · rw [players, update_entity_pending]
      exact same
    · rw [players, update_entity_pending]
      exact same

/-- The inputs that a runtime holds are its own. -/
structure Own (runtime : ClientRuntime) : Prop where
  unacked : ∀ packet ∈ runtime.pendingInputs.unackedInputs,
    packet.header.clientId = runtime.localClientId
  pending : ∀ packet ∈ runtime.simulation.pendingInputs,
    packet.header.clientId = runtime.localClientId

theorem submit_login_pending (sim : GameSimulation) (command : LoginCommand) :
    (submitLogin sim command).1.pendingInputs = sim.pendingInputs := by
  rcases submit_login_cases sim command with same | ⟨_, _, joined⟩
  · rw [same]
  · rw [joined]
    rfl

theorem submit_input_pending (sim : GameSimulation) (packet : ClientInputPacket) :
    ∀ other ∈ (submitInput sim packet).1.pendingInputs,
      other ∈ sim.pendingInputs ∨ other = packet := by
  intro other member
  rcases submit_input_cases sim packet with ⟨same, _⟩ | ⟨_, _, accepted⟩
  · rw [same] at member
    exact Or.inl member
  · rw [accepted] at member
    rcases List.mem_append.mp member with before | new
    · exact Or.inl before
    · exact Or.inr (List.mem_singleton.mp new)

theorem replay_pending (sim : GameSimulation) (inputs : List ClientInputPacket) :
    (replayLocalInputsForPrediction sim inputs).pendingInputs = sim.pendingInputs := by
  apply Runs.run_invariant replayLocalInput fun after => after.pendingInputs = sim.pendingInputs
  · intro before packet same
    unfold replayLocalInput
    split
    · exact same
    · rw [update_entity_pending]
      exact same
  · rfl

theorem step_own (runtime : ClientRuntime) (call : ClientCall) (own : Own runtime) :
    Own (clientStep runtime call) := by
  cases call with
  | connectLocal localTimeMs =>
      refine ⟨own.unacked, fun packet member => own.pending packet ?_⟩
      rw [← submit_login_pending runtime.simulation]
      exact member
  | queueInput input localTimeMs =>
      constructor
      · intro packet member
        rcases List.mem_append.mp member with old | new
        · exact own.unacked packet old
        · rw [List.mem_singleton.mp new]
          rfl
      · intro packet member
        rcases submit_input_pending _ _ packet member with old | rfl
        · exact own.pending packet old
        · rfl
  | tickSimulation order =>
      refine ⟨own.unacked, fun packet member => ?_⟩
      have cleared : (clientStep runtime (.tickSimulation order)).simulation.pendingInputs = [] :=
        tick_pending order runtime.simulation
      rw [cleared] at member
      cases member
  | applyServerSnapshot order snapshot =>
      refine ⟨fun packet member => own.unacked packet (List.mem_of_mem_filter member),
        fun packet member => own.pending packet ?_⟩
      have same :
          (clientStep runtime (.applyServerSnapshot order snapshot)).simulation.pendingInputs =
            runtime.simulation.pendingInputs :=
        (replay_pending _ _).trans (apply_snapshot_pending _ _ _ _)
      rw [← same]
      exact member
  | recordTimeSyncSample sample => exact ⟨own.unacked, own.pending⟩
  | drainEvents => exact ⟨own.unacked, own.pending⟩

/-! The result. -/

/-- The input that a call charges. -/
def chargedBy (runtime : ClientRuntime) : ClientCall → Option ClientInputPacket
  | .tickSimulation _ =>
      if clientReady runtime.simulation runtime.localClientId then
        firstFire runtime.simulation.pendingInputs
      else none
  | .applyServerSnapshot order snapshot =>
      if clientReady (replayStart order runtime snapshot) runtime.localClientId then
        firstFire (replayed runtime snapshot)
      else none
  | _ => none

theorem call_charges (runtime : ClientRuntime) (own : Own runtime) (call : ClientCall) :
    (callCauses runtime call).map Cause.packet = (chargedBy runtime call).toList := by
  cases call with
  | tickSimulation order =>
      have charges := causes_packets apply_input_latches runtime.localClientId
        runtime.simulation.pendingInputs own.pending (advanceClock runtime.simulation)
      refine charges.trans ?_
      have same : clientReady (advanceClock runtime.simulation) runtime.localClientId =
          clientReady runtime.simulation runtime.localClientId := rfl
      unfold chargedBy
      dsimp only
      rw [same]
      split <;> rfl
  | applyServerSnapshot order snapshot =>
      have charges := causes_packets replay_latches runtime.localClientId
        (replayed runtime snapshot)
        (fun packet member => own.unacked packet (List.mem_of_mem_filter member))
        (replayStart order runtime snapshot)
      refine charges.trans ?_
      unfold chargedBy
      dsimp only
      split <;> rfl
  | connectLocal localTimeMs => rfl
  | queueInput input localTimeMs => rfl
  | recordTimeSyncSample sample => rfl
  | drainEvents => rfl

theorem fresh_iff (watched : Watched) (call : ClientCall) :
    CallIsFresh watched call ↔
      ∀ packet, chargedBy watched.runtime call = some packet → packet ∉ watched.charged := by
  have batch (sim : GameSimulation) (packets : List ClientInputPacket) :
      Fresh watched sim packets ↔ ∀ packet,
        (if clientReady sim watched.runtime.localClientId then firstFire packets else none) =
          some packet → packet ∉ watched.charged := by
    unfold Fresh
    cases clientReady sim watched.runtime.localClientId with
    | false => simp
    | true => simp
  cases call with
  | tickSimulation order => exact batch _ _
  | applyServerSnapshot order snapshot => exact batch _ _
  | connectLocal localTimeMs => simp [CallIsFresh, chargedBy]
  | queueInput input localTimeMs => simp [CallIsFresh, chargedBy]
  | recordTimeSyncSample sample => simp [CallIsFresh, chargedBy]
  | drainEvents => simp [CallIsFresh, chargedBy]

/-- A call keeps the run silent exactly when it is fresh. -/
theorem silent_step (watched : Watched) (own : Own watched.runtime) (call : ClientCall) :
    Silent (watchStep watched call) ↔ Silent watched ∧ CallIsFresh watched call := by
  have charged : (watchStep watched call).charged =
      watched.charged ++ (chargedBy watched.runtime call).toList := by
    rw [← call_charges watched.runtime own call]
    exact List.map_append
  unfold Silent
  rw [fresh_iff, ← List.nodup_iff_count_le_one, ← List.nodup_iff_count_le_one, charged]
  cases chargedBy watched.runtime call with
  | none => simp
  | some packet =>
      have fresh : (∀ other ∈ watched.charged, other ≠ packet) ↔ packet ∉ watched.charged :=
        ⟨fun apart member => apart packet member rfl, fun absent other member same =>
          absent (same ▸ member)⟩
      simp [List.nodup_append, fresh]

theorem silent_run (calls : List ClientCall) (watched : Watched) (own : Own watched.runtime) :
    Silent (Runs.run watchStep watched calls) ↔
      Silent watched ∧ Runs.EveryStep watchStep CallIsFresh watched calls := by
  induction calls generalizing watched with
  | nil => simp [Runs.EveryStep]
  | cons call rest ih =>
      rw [Runs.run_cons, ih (watchStep watched call) (step_own watched.runtime call own),
        silent_step watched own call, Runs.EveryStep, and_assoc]

/-- No input ever starts two warmups if and only if every call is fresh; and every
warmup that was ever queued has a cause. -/
theorem replay_silent_iff (localClientId : ClientId) (config : SimulationConfig)
    (calls : List ClientCall) :
    (Silent (watchRun localClientId config calls) ↔
      Runs.EveryStep watchStep CallIsFresh { runtime := .new localClientId config } calls) ∧
    (watchRun localClientId config calls).caused.map Cause.warmup =
      (watchRun localClientId config calls).queued := by
  constructor
  · have start : Own (ClientRuntime.new localClientId config) :=
      ⟨fun _ member => (by cases member), fun _ member => (by cases member)⟩
    have silent : Silent { runtime := .new localClientId config } := by
      intro packet
      exact Nat.zero_le 1
    refine (silent_run calls _ start).trans ?_
    exact and_iff_right silent
  · apply Runs.run_invariant watchStep
      fun watched => watched.caused.map Cause.warmup = watched.queued
    · intro watched call same
      refine (List.map_append).trans ?_
      rw [same, call_warmups]
      rfl
    · rfl

/-- The weapon of a player that a snapshot states as defeated or warming up. -/
def Busy (combat : CombatStateDTO) : Prop := combat.defeated = true ∨ combat.weaponWarming = true

theorem busy_not_ready {state : EntityStateDTO} {row : Components} (stated : StatedBy state row)
    (isPlayer : state.replication.kind = .player) {combat : CombatStateDTO}
    (isCombat : state.combat = some combat) (busy : Busy combat) (config : SimulationConfig) :
    ready config row = false := by
  have player := stated.health combat isCombat isPlayer
  obtain ⟨weapon, isWeapon, _, warming, _⟩ := stated.weapon combat isCombat isPlayer
  rcases busy with defeated | warms
  · simp [ready, Components.defeated, player, defeated]
  · rw [warms] at warming
    simp [ready, isWeapon, warming, stated.named]

/-- A well-formed snapshot that states the local player defeated or warming up is
fresh: its replay finds no idle weapon. -/
theorem busy_fresh (watched : Watched) (named : Named watched.runtime.simulation)
    (nonzero : watched.runtime.localClientId ≠ 0) (order : LoopOrder) (snapshot : SnapshotDTO)
    (well : WellFormed watched.runtime.simulation snapshot) (own : EntityStateDTO)
    (member : own ∈ snapshot.entities)
    (isOwn : ownedByLocalPlayer watched.runtime.localClientId own = true)
    (combat : CombatStateDTO) (isCombat : own.combat = some combat) (busy : Busy combat) :
    CallIsFresh watched (.applyServerSnapshot order snapshot) := by
  obtain ⟨written, final, ids, applied, isFinal⟩ :=
    apply_snapshot_applied order watched.runtime.localClientId named snapshot well.distinct
  obtain ⟨row, held, stated⟩ := sent_stated applied well member
  have isPlayer : own.replication.kind = .player := by
    unfold ownedByLocalPlayer at isOwn
    simpa using (Bool.and_eq_true_iff.mp isOwn).2
  intro isReady
  exfalso
  unfold replayStart clientReady inputTarget at isReady
  rw [isFinal] at isReady
  obtain ⟨entity, target, isRow⟩ := (Option.any_eq_true _ _).mp isReady
  obtain ⟨id, isEntry, moves⟩ := Option.bind_eq_some_iff.mp target
  have isId : id = own.movement.entityId := by
    have entry : final.playerByClient[watched.runtime.localClientId]? = some id := isEntry
    rw [applied.players] at entry
    split at entry
    · cases entry
    · rw [applied.wrote.players, if_neg nonzero, last_own_sent well nonzero member isOwn] at entry
      cases entry
      rfl
  have isHeld : final.registry.get? entity = some row := by
    have found : final.entityByNetworkId[own.movement.entityId]? = some entity := isId ▸ moves
    unfold heldRow at held
    rw [found] at held
    exact held
  obtain ⟨other, isOther, readyRow⟩ := (Option.any_eq_true _ _).mp isRow
  have same : other = row := Option.some.inj (isOther.symm.trans isHeld)
  rw [same, busy_not_ready stated isPlayer isCombat busy] at readyRow
  cases readyRow

/-- The first snapshot that a server sends of its first player. -/
def firstSnapshot : SnapshotDTO :=
  buildSnapshot .stored (tickFixed .stored (submitLogin
    { config := { mode := .serverAuthoritative } } { header := { clientId := 1 } }).1) 1 1 0

def snapshotOf : ClientCall → Option SnapshotDTO
  | .applyServerSnapshot _ snapshot => some snapshot
  | _ => none

/-- Snapshots whose ids and acknowledgements never decrease. -/
def SnapshotsInOrder (calls : List ClientCall) : Prop :=
  (calls.filterMap snapshotOf).Pairwise fun earlier later =>
    earlier.snapshotId ≤ later.snapshotId ∧
      earlier.ackedInputSequence ≤ later.ackedInputSequence

/-- The player fires, and a snapshot arrives that was built before the server had
the input. -/
def lateSnapshot : List ClientCall :=
  [.connectLocal 0, .queueInput { fire := true } 0, .tickSimulation .stored,
   .applyServerSnapshot .stored firstSnapshot]

theorem replay_not_silent :
    ¬ ∀ localClientId config calls, SnapshotsInOrder calls →
      Silent (watchRun localClientId config calls) := by
  intro claimed
  have ordered : SnapshotsInOrder lateSnapshot := List.pairwise_singleton _ _
  have fired : (watchRun 1 {} lateSnapshot).charged.count
      { header := { clientId := 1, sequence := 1 }, input := { fire := true } } = 2 := by
    decide +kernel
  have once := claimed 1 {} lateSnapshot ordered
    { header := { clientId := 1, sequence := 1 }, input := { fire := true } }
  rw [fired] at once
  exact absurd once (by decide)

end Brawololo.ReplayedWarmups
