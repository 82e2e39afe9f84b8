import Brawololo.HeldIdentities
import Brawololo.HostOracles
import Brawololo.Reconciliation

/-!
Where a client of a game has its own player. A snapshot that it applies shows the
player as the server had it after some tick, and the replay that follows moves it
under the inputs that the server had not consumed by then.
-/

namespace Brawololo.GamePrediction

open GameTypes EntityStore NetworkProtocol Simulation SimulationStages SimulationSnapshots
open EntityIdentity AreaOfInterest PlayerMotion Client ClientTables LocalIdentity Server HostTurns
open HostTransports HostSimulation HostOracles HubTransports NetworkedGames InputAccounting
open ClientBooks ApplicationBooks ServerBooks GameBooks GameDelivery GameInputs SettledRounds
open MirroredRounds HeldIdentities Reconciliation RowRules SnapshotSizes

/-! The host through the calls of a game. -/

/-- Every call of a game is a call of the host over some transport, or none. -/
theorem game_step_host (game : NetworkedGame) (call : GameCall) :
    (gameStep game call).serverHost = game.serverHost ∨
      ∃ transport hostCall, OwnCall hostCall ∧
        (gameStep game call).serverHost = hostStep transport game.serverHost hostCall := by
  cases call with
  | client clientId call => exact Or.inl rfl
  | pumpClientMessages polls =>
      obtain ⟨transport, reached⟩ := pump_realised (hubTransport .server) polls game.hosted
      rw [pump_singly] at reached
      refine Or.inr ⟨transport, _, ?_, reached⟩
      trivial
  | tickAndSendSnapshots order hostOrder nowMs =>
      exact Or.inr ⟨_, .tickAndSendSnapshots order hostOrder nowMs, trivial, rfl⟩
  | drainEvents => exact Or.inr ⟨hubAnswers, .drainEvents, trivial, rfl⟩

/-- The server of a game never gives an id back. -/
theorem allocations_grow (config : ServerNetworkHostConfig) {past calls : List GameCall}
    (before : past <+: calls) :
    allocations (gameRun config past).serverHost.runtime.simulation ≤
      allocations (gameRun config calls).serverHost.runtime.simulation := by
  obtain ⟨rest, rfl⟩ := before
  unfold gameRun
  rw [Runs.run_append]
  refine Runs.run_relates gameStep (fun game later =>
    allocations game.serverHost.runtime.simulation ≤
      allocations later.serverHost.runtime.simulation) (fun _ => Nat.le_refl _)
    (fun first second => Nat.le_trans first second) ?_ _ rest
  intro game call
  rcases game_step_host game call with same | ⟨transport, hostCall, own, step⟩
  · rw [same]
  · rw [step]
    refine host_step_keeps transport (fun sim =>
      allocations game.serverHost.runtime.simulation ≤ allocations sim) ?_ ?_ _ hostCall own
      (Nat.le_refl _)
    · exact fun sim call kept => Nat.le_trans kept (server_step_aged sim call).created
    · exact fun _ kept => kept

/-- The snapshot shows the server as it is, and acknowledges what it has consumed. -/
structure ShownBy (game : NetworkedGame) (clientId : ClientId) (snapshot : SnapshotDTO) : Prop where
  planned : ∃ (order : LoopOrder) (host : ServerNetworkHost),
    host.runtime.simulation = game.serverHost.runtime.simulation ∧
      snapshot = (host.plannedSnapshot order clientId).snapshot
  acked : snapshot.ackedInputSequence = lastSequence (inputsConsumed game clientId)

/-- Only a tick of the server sends snapshots, and these show it. -/
theorem game_step_shows {config : ServerNetworkHostConfig} {game : NetworkedGame}
    (book : GameBook config game) (call : GameCall) (clientId : ClientId) :
    ∃ shown, snapshotsSent (gameStep game call) clientId = snapshotsSent game clientId ++ shown ∧
      ∀ snapshot ∈ shown, ShownBy (gameStep game call) clientId snapshot := by
  have nothing (same : snapshotsSent (gameStep game call) clientId = snapshotsSent game clientId) :
      ∃ shown, snapshotsSent (gameStep game call) clientId =
          snapshotsSent game clientId ++ shown ∧
        ∀ snapshot ∈ shown, ShownBy (gameStep game call) clientId snapshot :=
    ⟨[], by rw [same, List.append_nil], by simp⟩
  cases call with
  | client other call => exact nothing rfl
  | drainEvents => exact nothing rfl
  | pumpClientMessages polls =>
      apply nothing
      obtain ⟨transport, reached⟩ := pump_realised (hubTransport .server) polls game.hosted
      rw [pump_singly] at reached
      obtain ⟨added, recorded, quiet⟩ := pump_no_snapshot transport _ game.serverHost
      have isHost : (gameStep game (.pumpClientMessages polls)).serverHost.trace =
          game.serverHost.trace ++ added :=
        (congrArg ServerNetworkHost.trace reached).trans recorded
      have none : added.filterMap (acceptedFor clientId) = [] := by
        apply List.filterMap_eq_nil_iff.mpr
        intro happening member
        unfold acceptedFor
        rw [quiet clientId happening member]
        rfl
      unfold snapshotsSent
      rw [isHost, List.filterMap_append, none, List.append_nil]
  | tickAndSendSnapshots order hostOrder nowMs =>
      obtain ⟨shown, isSent, planned⟩ := ticked_planned book clientId order hostOrder nowMs
      obtain ⟨acking, isSent', acks⟩ := ticked_acks book clientId order hostOrder nowMs
      have same : shown = acking := List.append_cancel_left (isSent.symm.trans isSent')
      refine ⟨shown, isSent, ?_⟩
      intro snapshot member
      obtain ⟨host, _, isHost, isPlanned⟩ := planned snapshot member
      exact ⟨⟨order, host, isHost, isPlanned⟩, acks snapshot (same ▸ member)⟩

/-- Every snapshot that was sent showed the server at some time. -/
theorem sent_shown (config : ServerNetworkHostConfig) (calls : List GameCall)
    (clientId : ClientId) : ∀ snapshot ∈ snapshotsSent (gameRun config calls) clientId,
      ∃ past, past <+: calls ∧ ShownBy (gameRun config past) clientId snapshot := by
  induction calls using List.reverseRecOn with
  | nil =>
      intro snapshot member
      cases member
  | append_singleton calls call ih =>
      intro snapshot member
      have isRun : gameRun config (calls ++ [call]) = gameStep (gameRun config calls) call :=
        Runs.run_append gameStep _ calls [call]
      obtain ⟨shown, isSent, shows⟩ :=
        game_step_shows (game_run_book config calls) call clientId
      rw [isRun, isSent] at member
      rcases List.mem_append.mp member with old | new
      · obtain ⟨past, before, showed⟩ := ih snapshot old
        exact ⟨past, before.trans (List.prefix_append calls [call]), showed⟩
      · refine ⟨calls ++ [call], List.prefix_rfl, ?_⟩
        rw [isRun]
        exact shows snapshot new

/-! The client's own player in a snapshot. -/

/-- The state of the client's living player. -/
structure OwnLiving (clientId : ClientId) (state : EntityStateDTO) : Prop where
  player : state.replication.kind = .player
  owner : state.replication.ownerClientId = clientId
  living : ∃ combat, state.combat = some combat ∧ combat.defeated = false

def motionOf (state : EntityStateDTO) : Motion :=
  ({ x := state.movement.x, y := state.movement.y },
    { vx := state.movement.vx, vy := state.movement.vy })

theorem own_living_state {clientId : ClientId} {state : EntityStateDTO}
    (own : OwnLiving clientId state) :
    OwnState clientId state.movement.entityId (motionOf state) state :=
  ⟨rfl, own.player, own.owner, own.living, rfl⟩

/-- The server has the player where the snapshot shows it. -/
theorem shown_stands {order : LoopOrder} {host : ServerNetworkHost} {clientId : ClientId}
    (identified : Identified host.runtime.simulation)
    (room : host.runtime.simulation.registry.created < 2 ^ 32 - 1)
    (fights : EveryRow Fights host.runtime.simulation) {state : EntityStateDTO}
    (member : state ∈ (host.plannedSnapshot order clientId).snapshot.entities)
    (own : OwnLiving clientId state) :
    ∃ entity, Stands host.runtime.simulation clientId entity (motionOf state) := by
  obtain ⟨entity, row, present, shows⟩ :=
    planned_shows order (identified_bodied identified) member
  have hasPlayer : ∃ player, row.player = some player := by
    cases isPlayer : row.player with
    | some player => exact ⟨player, rfl⟩
    | none =>
        obtain ⟨projectile, isProjectile⟩ := Option.isSome_iff_exists.mp
          ((fights entity row present).bears.resolve_left (by simp [isPlayer]))
        have isKind := (shows.projectile projectile isPlayer isProjectile).1
        rw [own.player] at isKind
        cases isKind
  obtain ⟨player, isPlayer⟩ := hasPlayer
  have owned := player_owned identified room present isPlayer
  have isClient : player.clientId = clientId := by
    have owner := shows.owner
    rw [owned, own.owner] at owner
    exact owner.symm
  obtain ⟨_, combat, isCombat, showsCombat⟩ := shows.player player isPlayer
  refine ⟨entity, ?_, row, present, ?_⟩
  · rw [← isClient]
    exact identified.entered entity row player present isPlayer
  · refine ⟨by rw [shows.identity]; rfl, shows.transform, shows.velocity, by rw [isPlayer]; rfl, ?_⟩
    obtain ⟨combat', isCombat', living⟩ := own.living
    rw [isCombat] at isCombat'
    cases isCombat'
    unfold Components.defeated
    rw [isPlayer]
    exact showsCombat.defeated.symm.trans living

/-! The client. -/

/-- A runtime that applies its own player's state replays its pending inputs. -/
theorem snapshot_moves {clientId : ClientId} (nonzero : clientId ≠ 0) {runtime : ClientRuntime}
    (isClient : runtime.localClientId = clientId) (coherent : Coherent runtime.simulation)
    (order : LoopOrder) {snapshot : SnapshotDTO} {earlier later : List EntityStateDTO}
    {state : EntityStateDTO} (split : snapshot.entities = earlier ++ state :: later)
    (own : OwnLiving clientId state)
    (others : ∀ other ∈ later, OtherState clientId state.movement.entityId other)
    (mine : ∀ packet ∈ (runtime.applyServerSnapshot order snapshot).pendingInputs.unackedInputs,
      packet.header.clientId = clientId) :
    Holds (runtime.applyServerSnapshot order snapshot).simulation clientId
      state.movement.entityId
      ((runtime.applyServerSnapshot order snapshot).pendingInputs.unackedInputs.foldl
        (moveUnder runtime.simulation.config) (motionOf state)) := by
  have held := apply_snapshot_holds order runtime.simulation coherent snapshot clientId nonzero
    state.movement.entityId (motionOf state) earlier later state split (own_living_state own) others
  have replayed := replay_holds _ _ clientId state.movement.entityId (motionOf state) held mine
  rw [apply_snapshot_config, ← isClient] at replayed
  rw [← isClient]
  exact replayed

/-- A tick of a client that applies a snapshot: what it calls its runtime with
before the last one, and after it. -/
theorem tick_applies_last {config : ServerNetworkHostConfig} {game : NetworkedGame}
    (book : GameBook config game) (clientId : ClientId) (order : LoopOrder) (choice : PumpChoice)
    (nowMs : TimestampMs)
    (applies : (snapshotsApplied game clientId).length < (snapshotsApplied
      (game.callClient clientId (.tickFixed order choice nowMs)) clientId).length) :
    ∃ calls lastOrder snapshot, ∃ samples : List TimeSyncSample,
      (snapshotsApplied (game.callClient clientId (.tickFixed order choice nowMs))
        clientId).getLast? = some snapshot ∧
      snapshotsApplied game clientId <+: snapshotsApplied
        (game.callClient clientId (.tickFixed order choice nowMs)) clientId ∧
      AppliesOnly calls (snapshotsApplied
        (game.callClient clientId (.tickFixed order choice nowMs)) clientId) ∧
      ((game.callClient clientId (.tickFixed order choice nowMs)).clients clientId).runtime =
        Runs.run clientStep ((Runs.run clientStep (game.clients clientId).runtime
          calls).applyServerSnapshot lastOrder snapshot) (samples.map .recordTimeSyncSample) := by
  obtain ⟨calls, applied, pumped, ran, grown⟩ :=
    client_tick_applied book clientId order choice nowMs
  have isSome : applied ≠ [] := by
    rintro rfl
    rw [grown, List.append_nil] at applies
    exact Nat.lt_irrefl _ applies
  obtain ⟨earlier, snapshot, isApplied⟩ : ∃ earlier snapshot, applied = earlier ++ [snapshot] :=
    ⟨_, _, (List.dropLast_append_getLast isSome).symm⟩
  obtain ⟨before, lastOrder, samples, isCalls⟩ := pump_calls_last pumped isApplied
  refine ⟨.tickSimulation order :: before, lastOrder, snapshot, samples, ?_, ?_, ?_, ?_⟩
  · rw [grown, isApplied, ← List.append_assoc, List.getLast?_concat]
  · rw [grown]
    exact List.prefix_append _ _
  · intro other found member
    rw [grown]
    rcases List.mem_cons.mp member with same | later
    · cases same
    · refine List.mem_append_right _ (pump_calls_apply pumped other found ?_)
      rw [isCalls]
      exact List.mem_append_left _ later
  · rw [ran, isCalls, Runs.run_append]
    rfl

/-- Of growing acknowledgements the last one counts. -/
theorem unacknowledged_last {applied : List SnapshotDTO} {last : SnapshotDTO}
    (growing : applied.Pairwise fun first second =>
      first.ackedInputSequence ≤ second.ackedInputSequence)
    (isLast : applied.getLast? = some last) (packet : ClientInputPacket) :
    unacknowledged applied packet = decide (last.ackedInputSequence < packet.header.sequence) := by
  obtain ⟨earlier, rfl⟩ := List.getLast?_eq_some_iff.mp isLast
  obtain ⟨_, _, below⟩ := List.pairwise_append.mp growing
  unfold unacknowledged
  rw [List.all_append, List.all_cons, List.all_nil, Bool.and_true, Bool.and_eq_right_iff_imp]
  intro newer
  refine List.all_eq_true.mpr fun snapshot member => decide_eq_true ?_
  exact UInt32.lt_of_le_of_lt (below snapshot member last (by simp)) (of_decide_eq_true newer)

/-- The inputs of a client that the server had not consumed by then. -/
def lateInputs (past now : NetworkedGame) (clientId : ClientId) : List ClientInputPacket :=
  (submittedBy now clientId).filter fun packet =>
    lastSequence (inputsConsumed past clientId) < packet.header.sequence

/-- The client has its player where the server had it, moved under its late inputs. -/
def Predicts (past now : NetworkedGame) (clientId : ClientId) : Prop :=
  ∃ motion : Motion,
    clientMotion past.serverHost.runtime.simulation clientId =
      some (motion.1.x, motion.1.y, motion.2.vx, motion.2.vy) ∧
    let moved := (lateInputs past now clientId).foldl
      (moveUnder { mode := .clientPrediction }) motion
    clientMotion (now.clients clientId).runtime.simulation clientId =
      some (moved.1.x, moved.1.y, moved.2.vx, moved.2.vy)

theorem pending_late {config : ServerNetworkHostConfig} {past now : NetworkedGame}
    (book : GameBook config now) {clientId : ClientId}
    (few : (submittedBy now clientId).length < 2 ^ 32) {snapshot : SnapshotDTO}
    (isLast : (snapshotsApplied now clientId).getLast? = some snapshot)
    (shown : ShownBy past clientId snapshot) :
    inputsUnacked now clientId = lateInputs past now clientId := by
  have growing : (snapshotsApplied now clientId).Pairwise fun first second =>
      first.ackedInputSequence ≤ second.ackedInputSequence := by
    have sent := sent_acks_grow book clientId
    rw [snapshots_split book clientId] at sent
    exact (List.pairwise_append.mp sent).1
  have pending : inputsUnacked now clientId = (submittedBy now clientId).filter fun packet =>
      unacknowledged (snapshotsApplied now clientId) packet :=
    (book.clients clientId).runtime.pending few
  rw [pending]
  unfold lateInputs
  rw [← shown.acked]
  exact List.filter_congr fun packet _ => unacknowledged_last growing isLast packet

theorem late_own {past now : NetworkedGame} {clientId : ClientId} {packet : ClientInputPacket}
    (member : packet ∈ lateInputs past now clientId) : packet.header.clientId = clientId := by
  have submitted := List.mem_of_mem_filter member
  exact of_decide_eq_true (List.mem_filter.mp submitted).2

/-- A snapshot that showed the server holds the client's player once. -/
theorem shown_split {config : ServerNetworkHostConfig} {past : NetworkedGame}
    (book : GameBook config past) {clientId : ClientId}
    (room : allocations past.serverHost.runtime.simulation < 2 ^ 32 - 1) {snapshot : SnapshotDTO}
    (shown : ShownBy past clientId snapshot) {server : GameSimulation}
    (credible : ∀ state ∈ snapshot.entities, Credible server state) {state : EntityStateDTO}
    (member : state ∈ snapshot.entities) (own : OwnLiving clientId state) :
    (∃ entity, Stands past.serverHost.runtime.simulation clientId entity (motionOf state)) ∧
      ∃ earlier later, snapshot.entities = earlier ++ state :: later ∧
        ∀ other ∈ later, OtherState clientId state.movement.entityId other := by
  have identified := settled_identified book room
  have fights : EveryRow Fights past.serverHost.runtime.simulation := by
    obtain ⟨calls, host⟩ := book.host
    rw [host.ran]
    exact host_run_fights hubAnswers config calls host.own
  obtain ⟨order, planner, isPlanner, isPlanned⟩ := shown.planned
  rw [← isPlanner] at identified fights room ⊢
  have distinct := planned_movement_distinct order room identified clientId
  rw [← isPlanned] at distinct
  constructor
  · rw [isPlanned] at member
    exact shown_stands identified room fights member own
  · obtain ⟨earlier, later, split⟩ := List.append_of_mem member
    refine ⟨earlier, later, split, ?_⟩
    intro other isLater
    have isOther : other ∈ snapshot.entities := by
      rw [split]
      simp [isLater]
    have apart : other.movement.entityId ≠ state.movement.entityId := by
      rw [split, List.map_append, List.map_cons, List.nodup_append] at distinct
      have fresh := (List.nodup_cons.mp distinct.2.1).1
      intro same
      exact fresh (same ▸ List.mem_map_of_mem isLater)
    refine ⟨apart, ?_⟩
    -- The server has one player for the client.
    intro isPlayer isOwner
    have one := (credible other isOther).player isPlayer
    have two := (credible state member).player own.player
    rw [isOwner] at one
    rw [own.owner, one] at two
    exact apart (Option.some.inj two)

/-! Results. -/

/-- In every run of a game, when a tick of a client has applied a snapshot, the
last one it applied showed the server after some of the calls; and if this
snapshot shows the client's player alive, the client has its player where the
server had it then, moved under exactly those of its inputs that the server had
not consumed by then. -/
theorem prediction_follows (config : ServerNetworkHostConfig) (calls : List GameCall)
    (clientId : ClientId) (nonzero : clientId ≠ 0) (order : LoopOrder) (choice : PumpChoice)
    (nowMs : TimestampMs)
    (few : (submittedBy (gameRun config calls) clientId).length < 2 ^ 32)
    (unwrapped : allocations (gameRun config calls).serverHost.runtime.simulation < 2 ^ 32 - 1)
    (applies : (snapshotsApplied (gameRun config calls) clientId).length <
      (snapshotsApplied (gameStep (gameRun config calls)
        (.client clientId (.tickFixed order choice nowMs))) clientId).length) :
    ∃ snapshot past,
      (snapshotsApplied (gameStep (gameRun config calls)
        (.client clientId (.tickFixed order choice nowMs))) clientId).getLast? = some snapshot ∧
      past <+: calls ∧ ShownBy (gameRun config past) clientId snapshot ∧
      ((∃ state ∈ snapshot.entities, OwnLiving clientId state) →
        Predicts (gameRun config past) (gameStep (gameRun config calls)
          (.client clientId (.tickFixed order choice nowMs))) clientId) := by
  obtain ⟨book, agrees⟩ := game_run_agrees config calls clientId
  have inRun := game_in_run config calls clientId
  have showed := sent_shown config calls clientId
  have grew (past : List GameCall) (before : past <+: calls) := allocations_grow config before
  generalize gameRun config calls = game at book agrees inRun showed grew few unwrapped applies ⊢
  have isTick : gameStep game (.client clientId (.tickFixed order choice nowMs)) =
      game.callClient clientId (.tickFixed order choice nowMs) := rfl
  rw [isTick] at applies ⊢
  obtain ⟨clientCalls, lastOrder, snapshot, samples, isLast, grown, only, ran⟩ :=
    tick_applies_last book clientId order choice nowMs applies
  have nowBook := client_call_book book clientId (.tickFixed order choice nowMs)
  have fewNow : (submittedBy (game.callClient clientId (.tickFixed order choice nowMs))
      clientId).length < 2 ^ 32 := by
    rw [(tick_submits_nothing game clientId order choice nowMs).1]
    exact few
  have credible := applied_credible nowBook unwrapped clientId
  have isApplied := List.mem_of_getLast? isLast
  have isSent : snapshot ∈ snapshotsSent
      (game.callClient clientId (.tickFixed order choice nowMs)) clientId := by
    rw [snapshots_split nowBook clientId]
    exact List.mem_append_left _ isApplied
  obtain ⟨past, before, shown⟩ := showed snapshot isSent
  refine ⟨snapshot, past, isLast, before, shown, ?_⟩
  generalize game.callClient clientId (.tickFixed order choice nowMs) = now
    at isLast grown only ran nowBook fewNow credible isApplied ⊢
  rintro ⟨state, member, own⟩
  have pastBook := game_run_book config past
  have room := Nat.lt_of_le_of_lt (grew past before) unwrapped
  obtain ⟨⟨entity, stands⟩, earlier, later, split, others⟩ :=
    shown_split pastBook room shown (credible snapshot isApplied) member own
  -- The runtime as the snapshot finds it.
  have agreed := agrees _ fun other applied => credible other (grown.subset applied)
  have coherent := agrees_coherent (client_calls_agree clientCalls
    (applies_credible only credible) _ (book.clients clientId).runtime.client agreed)
  obtain ⟨runCalls, isRun⟩ := in_run_calls inRun clientCalls
  obtain ⟨isClient, isConfig⟩ := client_run_keeps clientId {} runCalls
  rw [← isRun] at isClient isConfig
  generalize Runs.run clientStep (game.clients clientId).runtime clientCalls = runtime
    at ran coherent isClient isConfig
  obtain ⟨sameSimulation, samePending⟩ :=
    samples_keep (runtime.applyServerSnapshot lastOrder snapshot) samples
  -- What it replays is what the server had not consumed.
  have pending := pending_late nowBook fewNow isLast shown
  unfold inputsUnacked at pending
  rw [ran, samePending] at pending
  have holds := snapshot_moves nonzero isClient coherent lastOrder split own others (by
    rw [pending]
    exact fun _ late => late_own late)
  rw [pending, isConfig] at holds
  refine ⟨motionOf state, stands_motion (settled_identified pastBook room) stands, ?_⟩
  dsimp only
  rw [ran, sameSimulation]
  exact holds_motion holds

/-- The client submits two inputs before the snapshot of the server's tick reaches
it. -/
def aheadCalls : List GameCall :=
  [.client 1 (.connect 0), .pumpClientMessages 8, .tickAndSendSnapshots .stored .stored 16,
    .client 1 (.submitInput { moveX := 1 } 16), .client 1 (.submitInput { moveX := 1 } 32)]

def aheadTick : GameCall := .client 1 (.tickFixed .stored { polls := 8 } 32)

theorem prediction_follows_ahead :
    clientMotion (gameRun {} aheadCalls).serverHost.runtime.simulation 1 =
        some (1408000, 1280000, 0, 0) ∧
      clientMotion ((gameStep (gameRun {} aheadCalls) aheadTick).clients 1).runtime.simulation 1 =
        some (1409996, 1280000, 83200, 0) ∧
      ∃ snapshot past,
        (snapshotsApplied (gameStep (gameRun {} aheadCalls) aheadTick) 1).getLast? =
          some snapshot ∧
        past <+: aheadCalls ∧ ShownBy (gameRun {} past) 1 snapshot ∧
        ((∃ state ∈ snapshot.entities, OwnLiving 1 state) →
          Predicts (gameRun {} past) (gameStep (gameRun {} aheadCalls) aheadTick) 1) :=
  ⟨by decide +kernel, by decide +kernel,
    prediction_follows {} aheadCalls 1 (by decide) .stored { polls := 8 } 32 (by decide)
      (by decide +kernel) (by decide +kernel)⟩

end Brawololo.GamePrediction
