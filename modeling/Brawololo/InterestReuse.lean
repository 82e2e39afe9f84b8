import Brawololo.IdReuse
import Brawololo.InterestAccounting

/-!
What the wrapped id counter does to interest. Once two players carry one id, a
snapshot lists it twice, and its client is told twice that the entity entered.
-/

namespace Brawololo.InterestReuse

open GameTypes EntityStore Simulation SimulationStages SimulationSnapshots EntityIdentity
open AreaOfInterest IdReuse Replication Server ServerNetworkHost HostTurns HostSimulation
open InterestAccounting

/-! A tick in which nothing happens. -/

/-- No input waits, no weapon warms and no projectile flies. -/
structure Idle (sim : GameSimulation) : Prop where
  pending : sim.pendingInputs = []
  weapons : ∀ entity row, sim.registry.get? entity = some row →
    ∀ weapon, row.weapon = some weapon → weapon.warming = false
  shots : ∀ entity row, sim.registry.get? entity = some row → row.projectile = none

theorem no_request {row : Components} (idle : ∀ weapon, row.weapon = some weapon →
    weapon.warming = false) (config : SimulationConfig) (timeMs : TimestampMs) :
    projectileRequest config timeMs row = none := by
  unfold projectileRequest
  split
  · next weapon _ _ _ _ isWeapon =>
      rw [if_neg]
      simp [warmupComplete, idle weapon isWeapon]
  · rfl

/-- Without inputs a row keeps its weapon. -/
theorem moved_weapon {sim : GameSimulation} (pending : sim.pendingInputs = []) (entity : Entity)
    (row : Components) : (movedRow sim entity row).weapon = row.weapon := by
  have noInputs : inputsFor sim entity = [] := by
    unfold inputsFor
    rw [pending]
    rfl
  unfold movedRow
  rw [noInputs]
  dsimp only [applyInputs, List.foldl]
  split
  · obtain ⟨transform, velocity, moved, _⟩ := integrate_changes sim.config row
    rw [moved]
    rfl
  · rfl

/-- Nothing but time and place changes in such a tick. -/
theorem idle_tick (order : LoopOrder) {sim : GameSimulation} (idle : Idle sim) :
    SameTables (advanceClock sim) (tickFixed order sim) ∧
      RowsRelated SameStanding sim (tickFixed order sim) := by
  have moved := process_inputs_tables order (advanceClock sim)
  have movedRows := process_inputs_standing order (advanceClock sim)
  have pending : (advanceClock sim).pendingInputs = [] := idle.pending
  -- No weapon warms up, so nothing is fired.
  have stage := quiet_warmups_eq order (processInputs order (advanceClock sim)) (by
    intro entity row present
    rw [process_inputs_row] at present
    obtain ⟨before, isBefore, rfl⟩ := Option.map_eq_some_iff.mp present
    apply no_request
    intro weapon isWeapon
    rw [moved_weapon pending] at isWeapon
    exact idle.weapons entity before isBefore weapon isWeapon)
  have finished := for_each_tables (finishWarmup (processInputs order (advanceClock sim)).config
    (processInputs order (advanceClock sim)).timeMs) order .weaponWarmups inWarmupView
    (processInputs order (advanceClock sim))
  have finishedRows := finish_warmups_standing order (processInputs order (advanceClock sim))
  rw [← stage] at finished finishedRows
  have rows := movedRows.trans SameStanding.trans finishedRows
  have noShots : (processWeaponWarmups order
      (processInputs order (advanceClock sim))).registry.view order .projectiles
        inProjectileView = [] := by
    apply List.eq_nil_iff_forall_not_mem.mpr
    intro entity member
    obtain ⟨row, present, flies⟩ := (Registry.mem_view _ _ _ _ _).mp member
    obtain ⟨before, isBefore, standing⟩ := rows.backward present
    obtain ⟨_, projectile, _, _, _, carries, _⟩ := (in_projectile_view_iff row).mp flies
    rw [standing.projectile, idle.shots entity before isBefore] at carries
    cases carries
  have still : processProjectiles order (processWeaponWarmups order
      (processInputs order (advanceClock sim))) =
        processWeaponWarmups order (processInputs order (advanceClock sim)) := by
    unfold processProjectiles
    rw [noShots]
    rfl
  have respawned := process_respawns_tables order (processWeaponWarmups order
    (processInputs order (advanceClock sim)))
  have respawnedRows := process_respawns_standing order (processWeaponWarmups order
    (processInputs order (advanceClock sim)))
  unfold tickFixed
  rw [still]
  exact ⟨(moved.trans finished).trans respawned, rows.trans SameStanding.trans respawnedRows⟩

/-! Two entities under one id. -/

/-- Two live entities carry the id that leads client 1 to the second of them. -/
structure Doubled (sim : GameSimulation) (first second : Entity) : Prop where
  apart : first ≠ second
  extent : HasExtent sim.config.map
  reach : 0 ≤ sim.config.map.interestRadiusChunks.toInt
  bodied : Bodied sim
  entry : sim.playerByClient[(1 : ClientId)]? = some shooterId
  named : sim.entityByNetworkId[shooterId]? = some second
  own : ∃ row, sim.registry.get? first = some row ∧ row.identity = some { id := shooterId } ∧
    row.ownedBy = some { clientId := 1 }
  other : ∃ row, sim.registry.get? second = some row ∧ row.identity = some { id := shooterId }

/-- A snapshot for client 1 lists the id of both. -/
theorem doubled_listed (order : LoopOrder) {sim : GameSimulation} {first second : Entity}
    (doubled : Doubled sim first second) (snapshotId baselineId : SnapshotId) :
    ¬ (snapshotIds (buildSnapshot order sim 1 snapshotId baselineId)).Nodup := by
  intro distinct
  obtain ⟨listed, _, visible, ids⟩ := build_snapshot_ids order doubled.bodied 1 snapshotId baselineId
  obtain ⟨ownRow, ownPresent, ownNamed, owned⟩ := doubled.own
  obtain ⟨otherRow, otherPresent, otherNamed⟩ := doubled.other
  obtain ⟨_, hasTransform, hasVelocity⟩ := doubled.bodied second otherRow otherPresent
  obtain ⟨place, isPlace⟩ := Option.isSome_iff_exists.mp hasTransform
  -- The observer's place is read through the shared id, so it is that of the second entity.
  have chunk := observer_chunk_of_player doubled.entry doubled.named otherPresent
    (by rw [otherNamed]; rfl) isPlace hasVelocity
  have ownListed : first ∈ listed := by
    refine (visible first).mpr ⟨ownRow, ownPresent, ?_⟩
    rw [visible_iff doubled.extent chunk (doubled.bodied first ownRow ownPresent).2.1]
    exact Or.inl owned
  have otherListed : second ∈ listed := by
    refine (visible second).mpr ⟨otherRow, otherPresent, ?_⟩
    rw [visible_iff doubled.extent chunk hasTransform]
    refine Or.inr ⟨place, isPlace, ?_⟩
    exact ⟨by simpa using doubled.reach, by simpa using doubled.reach⟩
  rw [ids] at distinct
  apply doubled.apart
  apply List.inj_on_of_nodup_map distinct ownListed otherListed
  unfold carriedId
  rw [ownPresent, otherPresent, Option.bind_some, Option.bind_some, ownNamed, otherNamed]

/-- The two players of the long fight, after one more tick. -/
theorem shared_doubled (order : LoopOrder) {sim : GameSimulation} (shared : SharedId sim)
    (pending : sim.pendingInputs = []) : Doubled (tickFixed order sim) 0 4294967296 := by
  obtain ⟨startedAtMs, completesAtMs, shooter⟩ := shared.shooter
  -- These two entities are all that live.
  have live {holds : Entity → Components → Prop}
      (first : holds 0 (shooterRow
        { warmupStartedAtMs := startedAtMs, warmupCompletesAtMs := completesAtMs }))
      (second : holds 4294967296 lateRow) :
      ∀ entity row, sim.registry.get? entity = some row → holds entity row := by
    intro entity row present
    by_cases isShooter : entity = 0
    · subst isShooter
      rw [shooter] at present
      cases present
      exact first
    · by_cases isLate : entity = 4294967296
      · subst isLate
        rw [shared.late] at present
        cases present
        exact second
      · rw [shared.alone entity isShooter isLate] at present
        cases present
  have idle : Idle sim := by
    constructor
    case pending => exact pending
    case weapons =>
      apply live
      · rintro weapon ⟨⟩
        rfl
      · rintro weapon ⟨⟩
        rfl
    case shots =>
      apply live
      · rfl
      · rfl
  have bodied : Bodied sim := by
    apply live
    · exact ⟨rfl, rfl, rfl⟩
    · exact ⟨rfl, rfl, rfl⟩
  obtain ⟨tables, rows⟩ := idle_tick order idle
  obtain ⟨ownRow, isOwn, ownStanding⟩ := rows.forward shooter
  obtain ⟨otherRow, isOther, otherStanding⟩ := rows.forward shared.late
  have config : (tickFixed order sim).config = rapidConfig := tables.config.trans shared.config
  constructor
  case apart => decide
  case extent =>
    rw [config]
    exact rapid_map_extent
  case reach =>
    rw [config]
    decide
  case bodied => exact tick_bodied order sim bodied
  case entry =>
    rw [tables.playerByClient]
    exact shared.first
  case named =>
    rw [tables.entityByNetworkId]
    exact shared.named
  case own => exact ⟨ownRow, isOwn, ownStanding.identity, ownStanding.ownedBy⟩
  case other => exact ⟨otherRow, isOther, otherStanding.identity⟩

/-! The host of the long fight. -/

/-- The runtime after the long fight and the second login. -/
def wrappedRuntime (count : Nat) : ServerRuntime :=
  { simulation := serverRun rapidConfig (rapidFireThenLogin count) }

/-- Client 1 joins the host, whose runtime then goes through the fight. -/
def wrappedCalls (count : Nat) : List HostCall :=
  [joinCall 1, .changeRuntime (wrappedRuntime count), .tickAndSendSnapshots .stored .stored 16]

def joinedHost : ServerNetworkHost := hostStep (fun _ _ => true) (.new {}) (joinCall 1)

theorem joined_host_alone : joinedHost.clients = [1] ∧
    joinedHost.clientStateById[(1 : ClientId)]? = some { clientId := 1 } ∧
    joinedHost.config = {} ∧ joinedHost.trace = [] := by
  refine ⟨rfl, ?_, rfl, rfl⟩
  rfl

theorem server_run_silent (config : SimulationConfig) (calls : List ServerCall) :
    Silent (serverRun config calls) := by
  apply Runs.run_invariant serverStep Silent
  · intro sim call silent
    cases call with
    | login command => exact submit_login_silent sim command silent
    | input packet => exact submit_input_silent sim packet silent
    | tick order => exact silent_of_queues silent (tick_silent order sim)
  · exact fun event member => by cases member

/-- What a client that sees nothing yet is told of a snapshot: everything enters. -/
theorem first_frame {Site : Type} (order : IterationOrder Site) (site : Site)
    (snapshot : SnapshotDTO) :
    frameChanges (InterestTracker.update {} order site snapshot).2 =
      (snapshotIds snapshot).map fun entityId => (entityId, true) := by
  have keys : (order.arrange site ({} : UnorderedMap NetworkEntityId Unit).keys) = [] := by
    apply List.eq_nil_iff_forall_not_mem.mpr
    intro entityId member
    rw [order.mem_arrange, Std.ExtTreeMap.mem_keys] at member
    exact absurd member Std.ExtTreeMap.not_mem_empty
  unfold frameChanges InterestTracker.update
  dsimp only
  rw [keys]
  simp [snapshotIds]

/-- An id that is listed twice is told of twice in a row. -/
theorem doubled_breaks_turns {ids : List NetworkEntityId} (doubled : ¬ ids.Nodup)
    (later : List (NetworkEntityId × Bool)) :
    ∃ entityId, ¬ Alternates true (changesOf entityId
      ((ids.map fun entityId => (entityId, true)) ++ later)) := by
  obtain ⟨entityId, duplicate⟩ := List.exists_duplicate_iff_not_nodup.mpr doubled
  refine ⟨entityId, ?_⟩
  have twice := List.duplicate_iff_sublist.mp duplicate
  have told := (twice.map fun entityId => (entityId, true)).filterMap
    fun change => if change.1 = entityId then some change.2 else none
  have entering : ∀ change ∈ changesOf entityId (ids.map fun entityId => (entityId, true)),
      change = true := by
    intro change member
    obtain ⟨entry, isEntry, isChange⟩ := List.mem_filterMap.mp member
    obtain ⟨_, _, rfl⟩ := List.mem_map.mp isEntry
    split at isChange
    · exact (Option.some.inj isChange).symm
    · cases isChange
  have atLeast := told.length_le
  rw [changes_of_append]
  unfold changesOf at entering ⊢
  generalize (ids.map fun entityId => (entityId, true)).filterMap
    (fun change => if change.1 = entityId then some change.2 else none) = changes
    at entering atLeast ⊢
  match changes, entering, atLeast with
  | first :: second :: rest, entering, _ =>
      rintro ⟨_, turn, _⟩
      have isEntering := entering second (List.mem_cons_of_mem first List.mem_cons_self)
      rw [isEntering] at turn
      cases turn
  | [_], _, atLeast => simp at atLeast
  | [], _, atLeast => simp at atLeast

/-- A client that sees nothing yet is told that everything in its first snapshot enters. -/
theorem first_turn_told (order : LoopOrder) (hostOrder : HostOrder) (nowMs : TimestampMs)
    (host : ServerNetworkHost) (clientId : ClientId)
    (has : host.clientStateById[clientId]? = some { clientId := clientId }) :
    interestOf clientId
        (host.snapshotTurn (fun _ _ => true) order hostOrder nowMs clientId).trace =
      interestOf clientId host.trace ++
        (snapshotIds (host.plannedSnapshot order clientId).snapshot).map
          fun entityId => (entityId, true) := by
  have turned := snapshot_turn (fun _ _ => true) order hostOrder nowMs host clientId
  generalize host.snapshotTurn (fun _ _ => true) order hostOrder nowMs clientId = after
    at turned ⊢
  cases turned with
  | skipped notDue =>
      -- The schedule of a new client starts at 0.
      unfold shouldSendSnapshot at notDue
      rw [has] at notDue
      simp [ServerClientReplicationState.shouldSendSnapshot] at notDue
  | refused due answer => cases answer
  | sent due answer missed followed follows =>
      cases follows with
      | unknown absent =>
          rw [show (handedOver host clientId _ _ true).clientStateById = host.clientStateById
            from rfl, has] at absent
          cases absent
      | followed state tracker frame sent followed isState updated only quiet told =>
          have isNew : state = { clientId := clientId } :=
            Option.some.inj (isState.symm.trans has)
          subst isNew
          have isFrame := congrArg Prod.snd updated
          have entered := first_frame hostOrder (.exitedEntities clientId)
            (host.plannedSnapshot order clientId).snapshot
          rw [isFrame] at entered
          have record := only.trace.trans
            (congrArg (· ++ sent) (handed_over_trace host clientId _ _ true))
          have toldHere := told clientId
          rw [if_pos rfl, entered] at toldHere
          exact (congrArg (interestOf clientId) record).trans (by
            rw [interest_of_append, interest_of_append, handed_interest, toldHere,
              List.append_nil])

theorem plan_all (config : ReplicationPlannerConfig) (unlimited : config.maxEntitiesPerSnapshot = 0)
    (snapshot : SnapshotDTO) (clientId : ClientId) :
    (snapshotIds (config.plan snapshot clientId).snapshot).Perm (snapshotIds snapshot) := by
  unfold snapshotIds ReplicationPlannerConfig.plan
  dsimp only
  rw [unlimited]
  apply List.Perm.map
  split
  · exact List.perm_insertionSort _ _
  · exact List.Perm.refl _

theorem wrapped_pending {count : Nat} (wraps : count = 4294967295) :
    (serverRun rapidConfig (rapidFireThenLogin count)).pendingInputs = [] := by
  have lone := rapid_fire_alone count (by omega)
  rw [rapidFireThenLogin, server_run_append]
  dsimp only [Runs.run, List.foldl, serverStep]
  rw [late_login_joins lone]
  exact lone.pending

/-- A host with one client, as its first tick of this simulation leaves it. -/
theorem doubled_tick_told (order : LoopOrder) (hostOrder : HostOrder) (nowMs : TimestampMs)
    (host : ServerNetworkHost) (alone : host.clients = [1])
    (has : host.clientStateById[(1 : ClientId)]? = some { clientId := 1 })
    (unlimited : host.config.replication.maxEntitiesPerSnapshot = 0)
    (fresh : interestOf 1 host.trace = []) {first second : Entity}
    (doubled : Doubled (tickFixed order host.runtime.simulation) first second) :
    ∃ entityId, ¬ Alternates true (changesOf entityId (interestOf 1
      (host.tickAndSendSnapshots (fun _ _ => true) order hostOrder nowMs).trace)) := by
  have ticked : Doubled (tickedSimulation order host) first second :=
    ⟨doubled.apart, doubled.extent, doubled.reach, doubled.bodied, doubled.entry, doubled.named,
      doubled.own, doubled.other⟩
  have told := first_turn_told order hostOrder nowMs
    { host with runtime := (host.runtime.tick order).drainEvents.1 } 1 has
  have listed := doubled_listed order ticked host.runtime.nextSnapshotId
    (host.baselineCache.decide 1 (host.requestedBaselineId 1)).effectiveBaselineId
  have planned := plan_all host.config.replication unlimited
    { buildSnapshot order (tickedSimulation order host) 1 host.runtime.nextSnapshotId
        (host.baselineCache.decide 1 (host.requestedBaselineId 1)).effectiveBaselineId with
      deliveryKind := (host.baselineCache.decide 1 (host.requestedBaselineId 1)).deliveryKind } 1
  have twice : ¬ (snapshotIds (plannedSnapshot order
      { host with runtime := (host.runtime.tick order).drainEvents.1 } 1).snapshot).Nodup :=
    mt planned.nodup_iff.mp listed
  obtain ⟨sent, broadcast, _⟩ := broadcast_no_snapshot (fun _ _ => true)
    (host.clients.foldl (snapshotTurn (fun _ _ => true) order hostOrder nowMs)
      { host with runtime := (host.runtime.tick order).drainEvents.1 })
    (host.runtime.tick order).drainEvents.2 nowMs
  obtain ⟨resent, events, _⟩ := resend_only (fun _ _ => true) hostOrder _ nowMs
  have record := (broadcast.trans events).trace
  have whole : (host.tickAndSendSnapshots (fun _ _ => true) order hostOrder nowMs).trace = _ :=
    record
  -- What the tick sends after the turn does not undo it.
  have oneTurn (start : ServerNetworkHost) :
      host.clients.foldl (snapshotTurn (fun _ _ => true) order hostOrder nowMs) start =
        start.snapshotTurn (fun _ _ => true) order hostOrder nowMs 1 := by
    rw [alone]
    rfl
  obtain ⟨entityId, broken⟩ := doubled_breaks_turns twice (interestOf 1 (sent ++ resent))
  refine ⟨entityId, ?_⟩
  rw [whole, oneTurn, interest_of_append, told, fresh, List.nil_append]
  exact broken

theorem wrapped_interest_doubled {count : Nat} (wraps : count = 4294967295) :
    (∀ call ∈ wrappedCalls count, BringsNoInterest call) ∧
      ¬ ∀ clientId entityId, Alternates true (changesOf entityId (interestOf clientId
        (hostRun (fun _ _ => true) {} (wrappedCalls count)).trace)) := by
  have shared := rapid_fire_then_login_shares wraps
  have doubled := shared_doubled .stored shared (wrapped_pending wraps)
  have silent := server_run_silent rapidConfig (rapidFireThenLogin count)
  obtain ⟨alone, has, config, fresh⟩ := joined_host_alone
  obtain ⟨entityId, broken⟩ := doubled_tick_told .stored .stored 16
    (hostStep (fun _ _ => true) joinedHost (.changeRuntime (wrappedRuntime count))) alone has
    (congrArg (fun config => config.replication.maxEntitiesPerSnapshot) config)
    (congrArg (interestOf 1) fresh) doubled
  have run : hostRun (fun _ _ => true) {} (wrappedCalls count) =
      (hostStep (fun _ _ => true) joinedHost
        (.changeRuntime (wrappedRuntime count))).tickAndSendSnapshots (fun _ _ => true) .stored
          .stored 16 := by
    unfold hostRun wrappedCalls
    rw [Runs.run_cons, Runs.run_cons, Runs.run_cons, Runs.run_nil]
    rfl
  rw [run]
  constructor
  · intro call member
    rcases List.mem_cons.mp member with rfl | later
    · trivial
    · rcases List.mem_pair.mp later with rfl | rfl
      · exact silent
      · trivial
  · exact not_forall.mpr ⟨1, not_forall.mpr ⟨entityId, broken⟩⟩

/-- The interest events of a client do not alternate once an id names two live players. -/
theorem interest_doubled_after_reuse :
    (∀ call ∈ wrappedCalls 4294967295, BringsNoInterest call) ∧
      ¬ ∀ clientId entityId, Alternates true (changesOf entityId (interestOf clientId
        (hostRun (fun _ _ => true) {} (wrappedCalls 4294967295)).trace)) :=
  wrapped_interest_doubled rfl

end Brawololo.InterestReuse
