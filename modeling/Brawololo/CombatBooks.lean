import Brawololo.CombatAccounts
import Brawololo.IdReuse

/-!
Runs of a server with the ledger of its combat events. Every call adds what it
queues under the number of ticks so far; a drain moves the queue to the events
that have been drained. As long as the id counter has not wrapped the ledger is
faithful and folding it gives the components of every player.
-/

namespace Brawololo.CombatBooks

open GameTypes EntityStore Simulation Simulation.GameSimulation SimulationStages EntityIdentity
open CombatLedger CombatAccounts IdReuse

structure Books where
  sim : GameSimulation
  ticks : Nat := 0
  drained : EventList := []
  ledger : Ledger := []

inductive BooksCall where
  | server (call : ServerCall)
  | drain

def ticksAfter (ticks : Nat) : ServerCall → Nat
  | .tick _ => ticks + 1
  | _ => ticks

/-- The events that a call has queued. -/
def queuedBy (before after : GameSimulation) : EventList := after.events.drop before.events.length

def booksStep (books : Books) : BooksCall → Books
  | .server call =>
      { books with
        sim := serverStep books.sim call
        ticks := ticksAfter books.ticks call
        ledger := books.ledger ++ stamp (ticksAfter books.ticks call)
          (queuedBy books.sim (serverStep books.sim call)) }
  | .drain =>
      { books with
        sim := books.sim.drainEvents.1
        drained := books.drained ++ books.sim.drainEvents.2 }

def newBooks (config : SimulationConfig) : Books := { sim := { config := config } }

def booksRun (config : SimulationConfig) (calls : List BooksCall) : Books :=
  Runs.run booksStep (newBooks config) calls

/-! What is claimed of the ledger. -/

/-- The entries of a player tell its life, and folding them gives its components. -/
structure PlayerAccount (config : SimulationConfig) (books : Books) (id : NetworkEntityId)
    (player : PlayerComponent) (standing : Standing) : Prop where
  folded : standingOf config id books.ledger = some standing
  life : Life config id (account id books.ledger) standing
  agrees : Agrees config player standing
  bounds : InBounds config standing
  waits : standing.defeated = true → ∀ tick, standing.diedIn ≤ tick → tick ≤ books.ticks →
    tickTime config tick < standing.respawnAtMs

structure FaithfulLedger (config : SimulationConfig) (books : Books) : Prop where
  inOrder : books.ledger.map Prod.snd = books.drained ++ books.sim.events
  clock : books.sim.timeMs = tickTime config books.ticks
  players : ∀ entity row player, books.sim.registry.get? entity = some row →
    row.player = some player → ∃ id standing, row.identity = some { id := id } ∧
      PlayerAccount config books id player standing
  nobodyElse : ∀ id, (∀ entity row, books.sim.registry.get? entity = some row →
    row.player.isSome → row.identity ≠ some { id := id }) → account id books.ledger = []
  hitBefore : Histories.EveryEvent Preceded books.ledger
  deathAfter : DeathFollows books.ledger

/-! Calls between the ticks. -/

section Calls

variable {config : SimulationConfig} {ticks : Nat} {ledger : Ledger} {sim : GameSimulation}

theorem create_player_accounts (clientId : ClientId) (x y : Fixed)
    (newClient : sim.playerByClient[clientId]? = none)
    (seat : sim.playerByClient.size < sim.config.maxPlayers.toNat)
    (room : (createPlayer sim clientId x y).registry.created < 2 ^ 32 - 1)
    (accounts : Accounts config ticks ledger sim) :
    ∃ event, Queued sim (createPlayer sim clientId x y) [.playerSpawned event] ∧
      Accounts config ticks (ledger ++ stamp ticks [.playerSpawned event])
        (createPlayer sim clientId x y) := by
  have creates := create_player_creates sim clientId x y
  have before : sim.registry.created < 2 ^ 32 - 1 :=
    Nat.lt_of_le_of_lt (create_player_aged sim clientId x y).created room
  have identified := create_player_identified sim clientId x y newClient seat before
    accounts.identified
  let event : PlayerSpawned :=
    { entityId := sim.nextNetworkId, clientId := clientId, x := x, y := y }
  have named : event.entityId = idOf sim.registry.created := accounts.identified.counted
  have rows (entity : Entity) : (createPlayer sim clientId x y).registry.get? entity =
      if entity = sim.registry.created then some (playerRow sim.config sim.nextNetworkId clientId x y)
      else sim.registry.get? entity := by
    rw [creates.registry, Registry.get?_create]
  -- No earlier entry names the new id: it is the id of no live player.
  have fresh : standingOf config event.entityId ledger = none := by
    apply accounts.others
    intro entity player isPlayer same
    obtain ⟨row, present, _⟩ := Option.bind_eq_some_iff.mp isPlayer
    have below := Registry.get?_lt _ present
    have equal := id_of_injective before (Nat.lt_trans below before) (named.symm.trans same)
    exact absurd equal.symm (Nat.ne_of_lt below)
  have maxHealth : sim.config.maxPlayerHealth = config.maxPlayerHealth :=
    congrArg SimulationConfig.maxPlayerHealth accounts.configured
  have isPlayer : playerAt (createPlayer sim clientId x y) sim.registry.created =
      some { clientId := clientId, health := sim.config.maxPlayerHealth,
             maxHealth := sim.config.maxPlayerHealth } := by
    rw [playerAt, rows, if_pos rfl]
    rfl
  refine ⟨event, rfl, block_accounts room accounts rfl rfl identified
    (Faithful.spawned ticks event accounts.faithful fresh) ?_
    (standing_spawned ticks event named) isPlayer ⟨maxHealth, rfl, rfl, maxHealth⟩ ?_ ?_⟩
  · intro id different
    simp [concerns, named, different.symm]
  · intro other different
    rw [playerAt, rows, if_neg different]
    rfl
  · intro impossible
    cases impossible

/-- Entries that leave nobody defeated anew leave everybody settled. -/
theorem settled_append {added : EventList} (settled : Settled config ticks ledger)
    (added_settled : ∀ id standing,
      standingOf config id (ledger ++ stamp ticks added) = some standing →
      standing.defeated = true → standingOf config id ledger = some standing) :
    Settled config ticks (ledger ++ stamp ticks added) := by
  intro id standing known defeated
  exact settled id standing (added_settled id standing known defeated) defeated

theorem spawn_settled (event : PlayerSpawned) (settled : Settled config ticks ledger) :
    Settled config ticks (ledger ++ stamp ticks [.playerSpawned event]) := by
  apply settled_append settled
  intro id standing known defeated
  by_cases named : event.entityId = id
  · have reborn : standingOf config id (ledger ++ stamp ticks [.playerSpawned event]) =
        some (born config) := standing_spawned ticks event named
    rw [reborn] at known
    cases known
    cases defeated
  · rw [standing_silent (by simp [stamp, concerns, named])] at known
    exact known

theorem quiet_call_accounts {after : GameSimulation} (accounts : Accounts config ticks ledger sim)
    (config' : after.config = sim.config) (timeMs : after.timeMs = sim.timeMs)
    (registry : after.registry = sim.registry) (identified : Identified after) :
    Accounts config ticks (ledger ++ stamp ticks []) after := by
  apply quiet_accounts accounts config' timeMs identified
  · intro entity
    unfold playerAt
    rw [registry]
  · simp

theorem login_accounts (command : LoginCommand) (settled : Settled config ticks ledger)
    (room : (submitLogin sim command).1.registry.created < 2 ^ 32 - 1)
    (accounts : Accounts config ticks ledger sim) :
    ∃ added, Queued sim (submitLogin sim command).1 added ∧
      Accounts config ticks (ledger ++ stamp ticks added) (submitLogin sim command).1 ∧
      Settled config ticks (ledger ++ stamp ticks added) := by
  have unchanged : ∃ added, Queued sim sim added ∧
      Accounts config ticks (ledger ++ stamp ticks added) sim ∧
      Settled config ticks (ledger ++ stamp ticks added) :=
    ⟨[], (List.append_nil _).symm,
      quiet_call_accounts accounts rfl rfl rfl accounts.identified, by simpa [stamp] using settled⟩
  rcases submit_login_cases sim command with same | ⟨unknown, seat, joined⟩
  · rw [same]
    exact unchanged
  · rw [joined] at room ⊢
    have newClient : sim.playerByClient[command.header.clientId]? = none :=
      Std.ExtTreeMap.getElem?_eq_none unknown
    let sequenced := { sim with
      lastAcceptedSequence := sim.lastAcceptedSequence.insert command.header.clientId
        command.header.sequence }
    have sequencedAccounts : Accounts config ticks ledger sequenced := by
      have kept : Accounts config ticks (ledger ++ stamp ticks []) sequenced :=
        quiet_call_accounts accounts rfl rfl rfl
          (identified_congr accounts.identified rfl rfl rfl rfl rfl)
      simpa [stamp] using kept
    obtain ⟨event, queued, after⟩ := @create_player_accounts config ticks ledger sequenced
      command.header.clientId _ _ newClient seat room sequencedAccounts
    exact ⟨_, queued, after, spawn_settled event settled⟩

theorem input_accounts (packet : ClientInputPacket) (settled : Settled config ticks ledger)
    (accounts : Accounts config ticks ledger sim) :
    ∃ added, Queued sim (submitInput sim packet).1 added ∧
      Accounts config ticks (ledger ++ stamp ticks added) (submitInput sim packet).1 ∧
      Settled config ticks (ledger ++ stamp ticks added) := by
  have stays : Settled config ticks (ledger ++ stamp ticks []) := by simpa [stamp] using settled
  rcases submit_input_cases sim packet with ⟨same, _⟩ | ⟨_, _, accepted⟩
  · rw [same]
    exact ⟨[], (List.append_nil _).symm,
      quiet_call_accounts accounts rfl rfl rfl accounts.identified, stays⟩
  · rw [accepted]
    exact ⟨[], (List.append_nil _).symm, quiet_call_accounts accounts rfl rfl rfl
      (identified_congr accounts.identified rfl rfl rfl rfl rfl), stays⟩

/-- The next tick starts with nobody due in a tick before it. -/
theorem advance_clock_accounts (settled : Settled config ticks ledger)
    (accounts : Accounts config ticks ledger sim) :
    Accounts config (ticks + 1) ledger (advanceClock sim) := by
  refine ⟨accounts.configured, ?_, identified_congr accounts.identified rfl rfl rfl rfl rfl,
    accounts.faithful, accounts.players, accounts.others, ?_⟩
  · unfold advanceClock tickTime
    dsimp only
    rw [accounts.time, accounts.configured]
  · intro id standing known defeated
    obtain ⟨since, waited⟩ := accounts.waits id standing known defeated
    refine ⟨Nat.le_succ_of_le since, ?_⟩
    intro earlier sinceEarlier before
    rcases Nat.lt_succ_iff_lt_or_eq.mp before with past | now
    · exact waited earlier sinceEarlier past
    · rw [now]
      exact settled id standing known defeated

theorem tick_accounts (healthy : Healthy config) (fair : FairWeapons config) (order : LoopOrder)
    (settled : Settled config ticks ledger)
    (room : (tickFixed order sim).registry.created < 2 ^ 32 - 1)
    (accounts : Accounts config ticks ledger sim) :
    ∃ added, Queued sim (tickFixed order sim) added ∧
      Accounts config (ticks + 1) (ledger ++ stamp (ticks + 1) added) (tickFixed order sim) ∧
      Settled config (ticks + 1) (ledger ++ stamp (ticks + 1) added) := by
  have started := advance_clock_accounts settled accounts
  have flown : Accounted config (ticks + 1) (advanceClock sim) (processProjectiles order
      (processWeaponWarmups order (processInputs order (advanceClock sim)))) :=
    ((process_inputs_accounted order _).trans (process_warmups_accounted order _)).trans
      (process_projectiles_accounted healthy fair order _)
  unfold tickFixed at room ⊢
  generalize processProjectiles order (processWeaponWarmups order (processInputs order
    (advanceClock sim))) = middle at flown room ⊢
  have middleRoom := Nat.lt_of_le_of_lt (process_respawns_aged order middle).created room
  obtain ⟨one, queuedOne, between⟩ := flown.keeps middleRoom ledger started
  obtain ⟨two, queuedTwo, ended⟩ := (process_respawns_accounted order middle).keeps room _ between
  rw [List.append_assoc, ← stamp_append] at ended
  refine ⟨one ++ two, ?_, ended,
    process_respawns_settled order between.configured between.time between.identified ended⟩
  have queued : Queued (advanceClock sim) (processRespawns order middle) (one ++ two) :=
    queuedOne.trans queuedTwo
  exact queued

end Calls

/-! Runs. -/

variable {config : SimulationConfig}

/-- The books between two calls. -/
structure Balanced (config : SimulationConfig) (books : Books) : Prop where
  inOrder : books.ledger.map Prod.snd = books.drained ++ books.sim.events
  accounts : Accounts config books.ticks books.ledger books.sim
  settled : Settled config books.ticks books.ledger

theorem stamp_events (ticks : Nat) (events : EventList) :
    (stamp ticks events).map Prod.snd = events := by
  simp [stamp, Function.comp_def]

theorem new_balanced (server : config.mode = .serverAuthoritative) :
    Balanced config (newBooks config) := by
  refine ⟨rfl, ⟨rfl, rfl, identified_start config server, Faithful.opened, ?_, ?_, ?_⟩, ?_⟩
  · intro entity player isPlayer
    simp [playerAt, newBooks] at isPlayer
  · exact fun _ _ => rfl
  · intro id standing known
    cases known
  · intro id standing known
    cases known

theorem server_call_balanced (healthy : Healthy config) (fair : FairWeapons config)
    (books : Books) (call : ServerCall)
    (room : (serverStep books.sim call).registry.created < 2 ^ 32 - 1)
    (balanced : Balanced config books) : Balanced config (booksStep books (.server call)) := by
  have called : ∃ added, Queued books.sim (serverStep books.sim call) added ∧
      Accounts config (ticksAfter books.ticks call)
        (books.ledger ++ stamp (ticksAfter books.ticks call) added) (serverStep books.sim call) ∧
      Settled config (ticksAfter books.ticks call)
        (books.ledger ++ stamp (ticksAfter books.ticks call) added) := by
    cases call with
    | login command => exact login_accounts command balanced.settled room balanced.accounts
    | input packet => exact input_accounts packet balanced.settled balanced.accounts
    | tick order =>
        exact tick_accounts healthy fair order balanced.settled room balanced.accounts
  obtain ⟨added, queued, accounts, settled⟩ := called
  have sameAdded : queuedBy books.sim (serverStep books.sim call) = added := by
    rw [queuedBy, queued, List.drop_left]
  refine ⟨?_, ?_, ?_⟩
  · simp only [booksStep, sameAdded, List.map_append, stamp_events, balanced.inOrder]
    rw [queued, List.append_assoc]
  · simp only [booksStep, sameAdded]
    exact accounts
  · simp only [booksStep, sameAdded]
    exact settled

theorem drain_balanced (books : Books) (balanced : Balanced config books) :
    Balanced config (booksStep books .drain) := by
  obtain ⟨inOrder, accounts, settled⟩ := balanced
  refine ⟨?_, ?_, settled⟩
  · simpa [booksStep, GameSimulation.drainEvents] using inOrder
  · exact ⟨accounts.configured, accounts.time,
      identified_congr accounts.identified rfl rfl rfl rfl rfl, accounts.faithful,
      accounts.players, accounts.others, accounts.waits⟩

theorem books_step_balanced (healthy : Healthy config) (fair : FairWeapons config)
    (books : Books) (call : BooksCall)
    (kept : books.sim.registry.created < 2 ^ 32 - 1 → Balanced config books) :
    (booksStep books call).sim.registry.created < 2 ^ 32 - 1 →
      Balanced config (booksStep books call) := by
  intro room
  cases call with
  | server call =>
      exact server_call_balanced healthy fair books call room
        (kept (Nat.lt_of_le_of_lt (server_step_aged books.sim call).created room))
  | drain => exact drain_balanced books (kept room)

theorem balanced_faithful {books : Books} (healthy : Healthy config)
    (balanced : Balanced config books) : FaithfulLedger config books := by
  obtain ⟨inOrder, accounts, settled⟩ := balanced
  have lives := faithful_lives accounts.faithful
  refine ⟨inOrder, accounts.time, ?_, ?_, faithful_preceded accounts.faithful,
    faithful_death_follows accounts.faithful⟩
  · intro entity row player present isPlayer
    obtain ⟨standing, known, agrees⟩ := accounts.players entity player (by
      rw [playerAt, present]
      exact isPlayer)
    have life := lives_known (lives (idOf entity)) known
    refine ⟨idOf entity, standing, accounts.identified.carried entity row present, known, life,
      agrees, life_in_bounds healthy life, ?_⟩
    intro defeated tick since past
    rcases Nat.lt_or_eq_of_le past with earlier | now
    · exact (accounts.waits _ standing known defeated).2 tick since earlier
    · rw [now]
      exact settled _ standing known defeated
  · intro id nobody
    have unknown : standingOf config id books.ledger = none := by
      apply accounts.others
      rintro entity player isPlayer rfl
      obtain ⟨row, present, carries⟩ := Option.bind_eq_some_iff.mp isPlayer
      exact nobody entity row present (by rw [carries]; rfl)
        (accounts.identified.carried entity row present)
    have account := lives id
    unfold LivesOf at account
    rw [unknown] at account
    exact account

/-- Along every server run that allocates fewer than `2 ^ 32 - 1` ids the drained
events are a faithful ledger of combat. -/
theorem combat_ledger_faithful (config : SimulationConfig)
    (server : config.mode = .serverAuthoritative) (healthy : Healthy config)
    (fair : FairWeapons config) (calls : List BooksCall)
    (unwrapped : allocations (booksRun config calls).sim < 2 ^ 32 - 1) :
    FaithfulLedger config (booksRun config calls) := by
  apply balanced_faithful healthy
  refine Runs.run_invariant booksStep
    (fun books => books.sim.registry.created < 2 ^ 32 - 1 → Balanced config books)
    (books_step_balanced healthy fair) (newBooks config) ?_ calls unwrapped
  exact fun _ => new_balanced server

def duelConfig : SimulationConfig :=
  { maxPlayerHealth := 30, tickDurationMs := 150, respawnDelayMs := 300 }

/-- One arrow kills the other player, who is born again two ticks later. -/
def duel : List BooksCall :=
  [.server (.login { header := { clientId := 1 } }),
   .server (.login { header := { clientId := 2 } }),
   .server (.input { header := { clientId := 1, sequence := 1 }, input := { fire := true } }),
   .server (.tick .stored), .server (.tick .stored), .drain, .server (.tick .stored),
   .server (.tick .stored), .server (.tick .stored)]

theorem combat_ledger_faithful_duel :
    ((account { value := 2 } (booksRun duelConfig duel).ledger).map Prod.fst = [0, 3, 3, 3, 5]) ∧
      FaithfulLedger duelConfig (booksRun duelConfig duel) := by
  have ids : allocations (booksRun duelConfig duel).sim = 3 := by decide +kernel
  refine ⟨by decide +kernel, combat_ledger_faithful duelConfig rfl ?_ ?_ duel ?_⟩
  · unfold Healthy
    decide
  · unfold FairWeapons
    decide
  · rw [ids]
    decide

/-! The id counter has come round. -/

theorem books_run_sim (books : Books) (calls : List ServerCall) :
    (Runs.run booksStep books (calls.map .server)).sim = Runs.run serverStep books.sim calls := by
  induction calls generalizing books with
  | nil => rfl
  | cons call rest ih => exact ih (booksStep books (.server call))

/-- The ledger of a run starts with the ledger the run started from. -/
theorem books_run_grows (books : Books) (calls : List BooksCall) :
    ∃ added, (Runs.run booksStep books calls).ledger = books.ledger ++ added := by
  refine Runs.run_relates booksStep
    (fun before after => ∃ added, after.ledger = before.ledger ++ added) ?_ ?_ ?_ books calls
  · exact fun books => ⟨[], (List.append_nil _).symm⟩
  · rintro first second third ⟨one, isSecond⟩ ⟨two, isThird⟩
    exact ⟨one ++ two, by rw [isThird, isSecond, List.append_assoc]⟩
  · intro books call
    cases call with
    | server call => exact ⟨_, rfl⟩
    | drain => exact ⟨[], (List.append_nil _).symm⟩

/-- A ledger with two births of one player is the ledger of no life. -/
theorem two_births_no_life {config : SimulationConfig} {id : NetworkEntityId}
    {standing : Standing} {tick later : Nat} {first last : PlayerSpawned} (between : Ledger)
    (firstNamed : first.entityId = id) (lastNamed : last.entityId = id) :
    ¬ Life config id (account id ([(tick, .playerSpawned first)] ++ between ++
      [(later, .playerSpawned last)])) standing := by
  intro life
  have once := life_born_once life
  rw [account_append, account_append, List.filter_append, List.filter_append, List.length_append,
    List.length_append] at once
  have atFirst : (account id [(tick, .playerSpawned first)]).filter isBirth =
      [(tick, .playerSpawned first)] := by
    simp [account, concerns, firstNamed, isBirth]
  have atLast : (account id [(later, .playerSpawned last)]).filter isBirth =
      [(later, .playerSpawned last)] := by
    simp [account, concerns, lastNamed, isBirth]
  rw [atFirst, atLast] at once
  simp only [List.length_singleton] at once
  omega

theorem late_login_queues {sim : GameSimulation} {count : Nat} (wraps : count = 4294967295)
    (lone : LoneShooter sim count) : ∃ event : PlayerSpawned, event.entityId = shooterId ∧
      queuedBy sim (serverStep sim (.login lateLogin)) = [.playerSpawned event] := by
  subst wraps
  have counter : sim.nextNetworkId = shooterId := lone.counter
  unfold queuedBy serverStep
  dsimp only
  rw [late_login_joins lone]
  unfold createPlayer
  dsimp only [GameSimulation.allocateNetworkId]
  rw [List.drop_left]
  exact ⟨_, counter, rfl⟩

theorem rapid_ledger_unfaithful {count : Nat} (wraps : count = 4294967295) :
    ¬ FaithfulLedger rapidConfig
      (booksRun rapidConfig ((rapidFireThenLogin count).map .server)) := by
  intro faithful
  have lone := rapid_fire_alone count (by omega)
  obtain ⟨event, named, queued⟩ := late_login_queues wraps lone
  have shared := rapid_fire_then_login_shares wraps
  obtain ⟨startedAtMs, completesAtMs, shooter⟩ := shared.shooter
  have sameSim : (booksRun rapidConfig ((rapidFireThenLogin count).map .server)).sim =
      serverRun rapidConfig (rapidFireThenLogin count) := books_run_sim _ _
  rw [← sameSim] at shooter
  obtain ⟨id, standing, isId, told⟩ := faithful.players 0 _ _ shooter rfl
  cases isId
  -- The ledger starts with the birth of client 1 and ends with that of client 14.
  obtain ⟨between, grown⟩ := books_run_grows
    (booksStep (newBooks rapidConfig) (.server (.login { header := { clientId := 1 } })))
    ((shots count).map .server)
  have sameBefore : (booksRun rapidConfig ((rapidFire count).map .server)).sim =
      serverRun rapidConfig (rapidFire count) := books_run_sim _ _
  have whole : booksRun rapidConfig ((rapidFireThenLogin count).map .server) =
      booksStep (booksRun rapidConfig ((rapidFire count).map .server))
        (.server (.login lateLogin)) := by
    unfold booksRun rapidFireThenLogin
    rw [List.map_append, Runs.run_append]
    rfl
  have ledger : ∃ tick, (booksRun rapidConfig ((rapidFireThenLogin count).map .server)).ledger =
      [(0, .playerSpawned { entityId := shooterId, clientId := 1, x := shooterPlace.x,
                            y := shooterPlace.y })] ++ between ++
        [(tick, .playerSpawned event)] := by
    refine ⟨(booksRun rapidConfig ((rapidFire count).map .server)).ticks, ?_⟩
    rw [whole]
    dsimp only [booksStep]
    rw [sameBefore, queued]
    have before : (booksRun rapidConfig ((rapidFire count).map .server)).ledger =
        [(0, .playerSpawned { entityId := shooterId, clientId := 1, x := shooterPlace.x,
                              y := shooterPlace.y })] ++ between := grown
    rw [before]
    rfl
  obtain ⟨tick, ledger⟩ := ledger
  have life := told.life
  rw [ledger] at life
  refine two_births_no_life between ?_ named life
  rfl

/-- Once an id names two players, their births stand in one account. -/
theorem combat_ledger_unfaithful_after_reuse :
    rapidConfig.mode = .serverAuthoritative ∧ Healthy rapidConfig ∧ FairWeapons rapidConfig ∧
      ¬ FaithfulLedger rapidConfig
        (booksRun rapidConfig ((rapidFireThenLogin 4294967295).map .server)) := by
  refine ⟨rfl, ?_, ?_, rapid_ledger_unfaithful rfl⟩
  · unfold Healthy
    decide
  · unfold FairWeapons
    decide

end Brawololo.CombatBooks
