import Brawololo.StandingCrowd
import Brawololo.SnapshotSizes
import Brawololo.RefusedSnapshots
import Brawololo.LoginAnswers
import Brawololo.FixedLayouts
import Brawololo.ClientProtocolPump

/-!
Rounds in which every player of a host shoots once. After each of them there are
as many more projectiles as players, all in one area of interest; a full server
outgrows the envelope of a snapshot in the third.
-/

namespace Brawololo.CrowdRounds

open GameTypes EntityStore Simulation Simulation.GameSimulation SimulationStages
open EntityIdentity PlayerMotion WeaponStages SimulationSnapshots AreaOfInterest StandingCrowd
open Server ServerNetworkHost HostTurns HostSimulation NetworkProtocol Serialization FixedLayouts
open Client ByteReader SnapshotSizes RefusedSnapshots

/-! Ticks. -/

/-- The crowd after so many ticks, in which each player has shot so often. -/
structure Gathered (players ticks volleys : Nat)
    (phase : AimComponent → WeaponStateComponent → Prop) (sim : GameSimulation) : Prop where
  crowd : Crowd players (14 * ticks) phase sim
  created : sim.registry.created = players * (volleys + 1)
  clock : sim.timeMs.toNat = 16 * ticks
  identified : Identified sim

/-- While no more ticks have passed, no projectile is old or far away. -/
def kTicks : Nat := 120

section Ticks

variable {players ticks volleys : Nat} {phase : AimComponent → WeaponStateComponent → Prop}
variable {sim : GameSimulation}

theorem next_clock (gathered : Gathered players ticks volleys phase sim) (few : ticks < kTicks) :
    (advanceClock sim).timeMs.toNat = 16 * (ticks + 1) := by
  have duration : ({} : SimulationConfig).tickDurationMs.toNat = 16 := rfl
  unfold advanceClock
  dsimp only
  rw [gathered.crowd.configured, UInt64.toNat_add, duration, gathered.clock]
  unfold kTicks at few
  omega

theorem gathered_room (gathered : Gathered players ticks volleys phase sim)
    (few : players ≤ kSeats) (rare : volleys ≤ 8) : sim.registry.created < 2 ^ 32 - 1 := by
  have most : players * (volleys + 1) ≤ 256 * 9 := Nat.mul_le_mul few (by omega)
  rw [gathered.created]
  omega

/-- What the tick does after its warmups. -/
theorem tick_after_warmups (order : LoopOrder) (gathered : Gathered players ticks volleys phase sim)
    (few : players ≤ kSeats) (short : ticks < kTicks) {volleys' : Nat} (rare : volleys' ≤ 8)
    {later : AimComponent → WeaponStateComponent → Prop}
    (crowd : Crowd players (14 * ticks) later
      (processWeaponWarmups order (processInputs order (advanceClock sim))))
    (created : (processWeaponWarmups order
      (processInputs order (advanceClock sim))).registry.created = players * (volleys' + 1)) :
    Gathered players (ticks + 1) volleys' later (tickFixed order sim) := by
  have clock := next_clock gathered short
  have inputs := process_inputs_tables order (advanceClock sim)
  have setup := process_warmups_setup order (processInputs order (advanceClock sim))
  have time := setup.timeMs.trans inputs.timeMs
  have isCreated : (tickFixed order sim).registry.created = players * (volleys' + 1) :=
    ((process_respawns_tables order _).created.trans (process_projectiles_created order _)).trans
      created
  constructor
  case crowd =>
    apply respawns_crowd
    apply projectiles_crowd order crowd few
    · unfold kDrift kTicks at *
      omega
    · rw [time, clock]
      unfold kLifetimeMs kTicks at *
      omega
  case created => exact isCreated
  case clock =>
    rw [tick_advances]
    exact clock
  case identified =>
    apply tick_identified order sim (fun _ => gathered.identified)
    rw [isCreated]
    unfold kSeats at few
    have most : players * (volleys' + 1) ≤ 256 * 9 := Nat.mul_le_mul few (by omega)
    omega

/-- The players that draw their bows in this tick. -/
theorem crowd_draws (order : LoopOrder) (gathered : Gathered players ticks volleys Ready sim)
    (few : players ≤ kSeats) (short : ticks < kTicks) (rare : volleys ≤ 8)
    (inputs : ∀ seat < players, ∃ sequence, inputsFor sim seat = [firePacket seat sequence]) :
    Gathered players (ticks + 1) volleys (Drawn (16 * (ticks + 1) + 300))
      (tickFixed order sim) := by
  have clock := next_clock gathered short
  have inputTables := process_inputs_tables order (advanceClock sim)
  have advanced : Crowd players (14 * ticks) Ready (advanceClock sim) :=
    crowd_congr gathered.crowd rfl rfl
  have drawn : Crowd players (14 * ticks) (Drawn (16 * (ticks + 1) + 300))
      (processInputs order (advanceClock sim)) := by
    apply inputs_crowd order advanced
    intro seat seated aim weapon ready
    obtain ⟨sequence, input⟩ := inputs seat seated
    refine ⟨_, _, stander_draws seat aim weapon advanced.configured input ready, rfl, ready.1, rfl,
      ?_⟩
    dsimp only [startedWeapon]
    rw [UInt64.toNat_add, clock, show (defaultWeaponDefinition .bow).warmupMs.toNat = 300 from rfl]
    unfold kTicks at short
    omega
  obtain ⟨waits, created⟩ := drawn_wait order drawn (by rw [inputTables.timeMs, clock]; omega)
  exact tick_after_warmups order gathered few short rare waits
    ((created.trans inputTables.created).trans gathered.created)

/-- A tick without inputs, before or at the time when the bows are let go. -/
theorem crowd_waits (order : LoopOrder) {completesAtMs : Nat}
    (gathered : Gathered players ticks volleys (Drawn completesAtMs) sim)
    (few : players ≤ kSeats) (short : ticks < kTicks) (rare : volleys < 8)
    (quiet : sim.pendingInputs = []) :
    (16 * (ticks + 1) < completesAtMs →
      Gathered players (ticks + 1) volleys (Drawn completesAtMs) (tickFixed order sim)) ∧
    (completesAtMs ≤ 16 * (ticks + 1) →
      Gathered players (ticks + 1) (volleys + 1) Ready (tickFixed order sim)) := by
  have clock := next_clock gathered short
  have inputTables := process_inputs_tables order (advanceClock sim)
  have advanced : Crowd players (14 * ticks) (Drawn completesAtMs) (advanceClock sim) :=
    crowd_congr gathered.crowd rfl rfl
  have drawn : Crowd players (14 * ticks) (Drawn completesAtMs)
      (processInputs order (advanceClock sim)) := by
    apply inputs_crowd order advanced
    intro seat _ aim weapon drawn
    have noInput : inputsFor (advanceClock sim) seat = [] := by
      unfold inputsFor
      rw [show (advanceClock sim).pendingInputs = [] from quiet]
      rfl
    exact ⟨aim, weapon, stander_waits seat aim weapon advanced.configured noInput, drawn⟩
  have time : (processInputs order (advanceClock sim)).timeMs.toNat = 16 * (ticks + 1) := by
    rw [inputTables.timeMs, clock]
  constructor
  · intro early
    obtain ⟨waits, created⟩ := drawn_wait order drawn (by rw [time]; exact early)
    exact tick_after_warmups order gathered few short (by omega) waits
      ((created.trans inputTables.created).trans gathered.created)
  · intro due
    obtain ⟨fires, created⟩ := drawn_fire order drawn (by rw [time]; exact due) few (by
      rw [time]
      unfold kLifetimeMs kTicks at *
      omega)
    apply tick_after_warmups order gathered few short (by omega) fires
    rw [created, inputTables.created]
    change sim.registry.created + players = _
    rw [gathered.created]
    ring

end Ticks

/-! Logins and volleys. -/

/-- The crowd between two rounds. -/
structure Rested (players rounds : Nat) (sim : GameSimulation) : Prop where
  gathered : Gathered players (20 * rounds) rounds Ready sim
  quiet : sim.pendingInputs = []
  accepted : ∀ seat < players,
    ((sim.lastAcceptedSequence[clientAt seat]?).getD 0).toNat ≤ rounds

section Joining

variable {players rounds : Nat} {sim : GameSimulation}

theorem client_at_injective {seat other : Nat} (seated : seat < kSeats) (isOther : other < kSeats)
    (same : clientAt seat = clientAt other) : seat = other := by
  have values := congrArg UInt32.toNat same
  unfold clientAt kSeats at *
  rw [UInt32.toNat_ofNat', UInt32.toNat_ofNat'] at values
  omega

/-- The next client has not joined yet. -/
theorem next_is_new (rested : Rested players 0 sim) (room : players < kSeats) :
    clientAt players ∉ sim.playerByClient := by
  intro known
  obtain ⟨id, entry⟩ :=
    Option.isSome_iff_exists.mp (Std.ExtTreeMap.mem_iff_isSome_getElem?.mp known)
  obtain ⟨entity, row, player, _, present, isPlayer, client, _⟩ :=
    rested.gathered.identified.placed _ _ entry
  have created : sim.registry.created = players := by
    rw [rested.gathered.created, Nat.zero_add, Nat.mul_one]
  have seated := Nat.lt_of_lt_of_eq (Registry.get?_lt _ present) created
  obtain ⟨aim, weapon, isStander, _⟩ := rested.gathered.crowd.stands entity seated
  rw [present] at isStander
  cases isStander
  cases isPlayer
  have same := client_at_injective (Nat.lt_trans seated room) room client
  exact Nat.ne_of_lt seated same

theorem login_seats {sim : GameSimulation} (rested : Rested players 0 sim) (room : players < kSeats)
    (seats : sim.playerByClient.size ≤ players) {command : LoginCommand}
    (isNext : command.header.clientId = clientAt players) (first : command.header.sequence = 0) :
    Rested (players + 1) 0 (submitLogin sim command).1 ∧
      (submitLogin sim command).1.playerByClient.size ≤ players + 1 := by
  obtain ⟨⟨crowd, created, clock, identified⟩, quiet, accepted⟩ := rested
  have isCreated : sim.registry.created = players := by rw [created, Nat.zero_add, Nat.mul_one]
  have unknown : command.header.clientId ∉ sim.playerByClient := by
    rw [isNext]
    exact next_is_new ⟨⟨crowd, created, clock, identified⟩, quiet, accepted⟩ room
  have free : sim.playerByClient.size < sim.config.maxPlayers.toNat := by
    rw [crowd.configured]
    exact Nat.lt_of_le_of_lt seats room
  have named := submit_login_identified sim command fun _ => identified
  rw [fresh_login_joins sim command unknown free, isNext, first, crowd.configured] at named ⊢
  have counted : sim.nextNetworkId = idOf players := by
    rw [identified.counted, isCreated]
  have afterCreated : (createPlayer
      { sim with lastAcceptedSequence := sim.lastAcceptedSequence.insert (clientAt players) 0 }
      (clientAt players) (home players).x (home players).y).registry.created = players + 1 :=
    congrArg (· + 1) isCreated
  refine ⟨⟨⟨?_, ?_, clock, named ?_⟩, quiet, ?_⟩, ?_⟩
  · exact create_player_crowd (crowd_congr crowd crowd.configured.symm rfl) isCreated counted
  · rw [Nat.zero_add, Nat.mul_one]
    exact afterCreated
  · unfold kSeats at room
    have small : players + 1 < 2 ^ 32 - 1 := by omega
    rw [← afterCreated] at small
    exact small
  · intro seat seated
    change (((sim.lastAcceptedSequence.insert (clientAt players) 0)[clientAt seat]?).getD
      0).toNat ≤ 0
    rw [get_insert]
    split
    · exact Nat.le_refl _
    · next isOld =>
        apply accepted seat
        have apart : seat ≠ players := by
          rintro rfl
          exact isOld rfl
        omega
  · exact Nat.le_trans Std.ExtTreeMap.size_insert_le (Nat.succ_le_succ seats)

/-- The inputs of a round, in which each of the players fires. -/
def volley (players rounds : Nat) : List ClientInputPacket :=
  (List.range players).map fun seat => firePacket seat (UInt32.ofNat (rounds + 1))

def submitAll (sim : GameSimulation) (packets : List ClientInputPacket) : GameSimulation :=
  packets.foldl (fun sim packet => (submitInput sim packet).1) sim

/-- The number of a round's inputs does not wrap. -/
theorem sequence_value (small : rounds < kTicks) :
    (UInt32.ofNat (rounds + 1)).toNat = rounds + 1 := by
  unfold kTicks at small
  rw [UInt32.toNat_ofNat']
  omega

theorem seat_plays {ticks volleys : Nat} {phase : AimComponent → WeaponStateComponent → Prop}
    (gathered : Gathered players ticks volleys phase sim) {seat : Nat} (seated : seat < players) :
    Stands sim (clientAt seat) seat (home seat, {}) := by
  obtain ⟨aim, weapon, present, _⟩ := gathered.crowd.stands seat seated
  exact ⟨gathered.identified.entered seat _ _ present rfl, _, present,
    stander_moves seat aim weapon⟩

/-- The first of the players have fired. -/
theorem volley_accepted (rested : Rested players rounds sim) (few : players ≤ kSeats)
    (small : rounds < kTicks) (shooters : Nat) (within : shooters ≤ players) :
    ∃ accepted, submitAll sim (volley shooters rounds) =
        { sim with
          lastAcceptedSequence := accepted
          pendingInputs := volley shooters rounds } ∧
      (∀ seat < shooters, accepted[clientAt seat]? = some (UInt32.ofNat (rounds + 1))) ∧
      ∀ seat, shooters ≤ seat → seat < players →
        accepted[clientAt seat]? = sim.lastAcceptedSequence[clientAt seat]? := by
  induction shooters with
  | zero =>
      refine ⟨sim.lastAcceptedSequence, ?_, by simp, fun _ _ _ => rfl⟩
      change sim = { sim with pendingInputs := [] }
      rw [← rested.quiet]
  | succ shooters ih =>
      obtain ⟨accepted, submitted, fired, waiting⟩ := ih (by omega)
      have more : volley (shooters + 1) rounds =
          volley shooters rounds ++ [firePacket shooters (UInt32.ofNat (rounds + 1))] := by
        unfold volley
        rw [List.range_succ, List.map_append]
        rfl
      have seated : shooters < players := by omega
      have entry := (seat_plays rested.gathered seated).entry
      have taken := own_input_accepted
        { sim with lastAcceptedSequence := accepted, pendingInputs := volley shooters rounds }
        (firePacket shooters (UInt32.ofNat (rounds + 1)))
        (by
          change (sim.playerByClient[clientAt shooters]?).isSome = true
          rw [entry]
          rfl)
        (by
          change (accepted[clientAt shooters]?).getD 0 < UInt32.ofNat (rounds + 1)
          rw [waiting shooters (Nat.le_refl _) (by omega), UInt32.lt_iff_toNat_lt,
            sequence_value small]
          have old := rested.accepted shooters (by omega)
          omega)
      refine ⟨accepted.insert (clientAt shooters) (UInt32.ofNat (rounds + 1)), ?_, ?_, ?_⟩
      · rw [more]
        unfold submitAll at submitted ⊢
        rw [List.foldl_concat, submitted]
        exact taken
      · intro seat isShooter
        rw [get_insert]
        split
        · rfl
        · next apart =>
            apply fired seat
            have other : seat ≠ shooters := by
              rintro rfl
              exact apart rfl
            omega
      · intro seat later seated
        rw [get_insert, if_neg, waiting seat (by omega) seated]
        intro same
        have := client_at_injective (by omega) (by omega) same
        omega

/-- Each player takes the input that it fired. -/
theorem volley_taken {ticks volleys : Nat} (gathered : Gathered players ticks volleys Ready sim)
    (few : players ≤ kSeats) (rare : volleys ≤ 8)
    (pending : sim.pendingInputs = volley players rounds) {seat : Nat} (seated : seat < players) :
    inputsFor sim seat = [firePacket seat (UInt32.ofNat (rounds + 1))] := by
  have room := gathered_room gathered few rare
  have target (other : Nat) (isOther : other < players) :
      sim.inputTarget (clientAt other) = some seat ↔ other = seat := by
    rw [input_target_own sim gathered.identified room (seat_plays gathered seated)]
    constructor
    · exact client_at_injective (Nat.lt_of_lt_of_le isOther few) (Nat.lt_of_lt_of_le seated few)
    · exact congrArg clientAt
  unfold inputsFor volley at *
  rw [pending, List.filter_map]
  have mine : (List.range players).filter ((fun packet : ClientInputPacket =>
      decide (sim.inputTarget packet.header.clientId = some seat)) ∘
        fun seat => firePacket seat (UInt32.ofNat (rounds + 1))) =
      (List.range players).filter (· = seat) := by
    apply List.filter_congr
    intro other member
    exact decide_eq_decide.mpr (target other (List.mem_range.mp member))
  rw [mine, List.filter_eq, List.count_eq_one_of_mem List.nodup_range (List.mem_range.mpr seated)]
  rfl

/-- A tick of the simulation under a host, which takes the events. -/
def hostTick (order : LoopOrder) (sim : GameSimulation) : GameSimulation :=
  { tickFixed order sim with events := [] }

theorem gathered_drained {ticks volleys : Nat}
    {phase : AimComponent → WeaponStateComponent → Prop}
    (gathered : Gathered players ticks volleys phase sim) :
    Gathered players ticks volleys phase { sim with events := [] } :=
  ⟨crowd_congr gathered.crowd rfl rfl, gathered.created, gathered.clock,
    identified_congr gathered.identified rfl rfl rfl rfl rfl⟩

/-- Between the tick that draws the bows and the one that lets them go. -/
structure Waiting (players rounds passed : Nat) (sim : GameSimulation) : Prop where
  gathered : Gathered players (20 * rounds + 1 + passed) rounds
    (Drawn (16 * (20 * rounds + 1) + 300)) sim
  quiet : sim.pendingInputs = []
  accepted : ∀ seat < players,
    ((sim.lastAcceptedSequence[clientAt seat]?).getD 0).toNat ≤ rounds + 1

variable (order : LoopOrder)

theorem round_draws (rested : Rested players rounds sim) (few : players ≤ kSeats)
    (soon : rounds < 6) :
    Waiting players rounds 0 (hostTick order (submitAll sim (volley players rounds))) := by
  have small : rounds < kTicks := by
    unfold kTicks
    omega
  obtain ⟨accepted, submitted, fired, _⟩ :=
    volley_accepted rested few small players (Nat.le_refl _)
  obtain ⟨⟨crowd, created, clock, identified⟩, _, _⟩ := rested
  rw [submitted]
  have loaded : Gathered players (20 * rounds) rounds Ready
      { sim with lastAcceptedSequence := accepted, pendingInputs := volley players rounds } :=
    ⟨crowd_congr crowd rfl rfl, created, clock,
      identified_congr identified rfl rfl rfl rfl rfl⟩
  have drawn := crowd_draws order loaded few (by unfold kTicks; omega) (by omega)
    fun seat seated => ⟨_, volley_taken loaded few (by omega) rfl seated⟩
  refine ⟨gathered_drained drawn, tick_pending order _, ?_⟩
  intro seat seated
  change (((tickFixed order _).lastAcceptedSequence[clientAt seat]?).getD 0).toNat ≤ rounds + 1
  rw [(tick_setup order _).2.2]
  change ((accepted[clientAt seat]?).getD 0).toNat ≤ rounds + 1
  rw [fired seat seated, Option.getD_some, sequence_value small]

theorem round_waits {passed : Nat} (waiting : Waiting players rounds passed sim)
    (few : players ≤ kSeats) (soon : rounds < 6) (early : passed < 18) :
    Waiting players rounds (passed + 1) (hostTick order sim) := by
  have waits := (crowd_waits order waiting.gathered few (by unfold kTicks; omega) (by omega)
    waiting.quiet).1 (by omega)
  refine ⟨gathered_drained waits, tick_pending order _, ?_⟩
  intro seat seated
  change (((tickFixed order sim).lastAcceptedSequence[clientAt seat]?).getD 0).toNat ≤ rounds + 1
  rw [(tick_setup order sim).2.2]
  exact waiting.accepted seat seated

theorem round_fires (waiting : Waiting players rounds 18 sim) (few : players ≤ kSeats)
    (soon : rounds < 6) : Rested players (rounds + 1) (hostTick order sim) := by
  have fires := (crowd_waits order waiting.gathered few (by unfold kTicks; omega) (by omega)
    waiting.quiet).2 (by omega)
  refine ⟨?_, tick_pending order _, ?_⟩
  · exact gathered_drained fires
  · intro seat seated
    change (((tickFixed order sim).lastAcceptedSequence[clientAt seat]?).getD 0).toNat ≤ rounds + 1
    rw [(tick_setup order sim).2.2]
    exact waiting.accepted seat seated

end Joining

/-! The host. -/

section Host

variable (transport : Transport)

def joinEnvelope (clientId : ClientId) : NetworkEnvelope :=
  { peerId := clientId, channel := .loginSpawn, messageClass := .loginRequest,
    payload := serializeLoginCommand { header := { clientId := clientId } } }

theorem join_decoded (clientId : ClientId) :
    deserializeLoginCommand (joinEnvelope clientId).payload =
      some { header := { clientId := clientId } } :=
  (decode_iff readLoginCommand_exact _ _).mpr rfl

theorem join_handled (host : ServerNetworkHost) (clientId : ClientId) :
    hostStep transport host (joinCall clientId) =
      host.handleLoginEnvelope (joinEnvelope clientId) := by
  have isOk : (joinEnvelope clientId).Ok := by
    rw [envelope_ok_iff]
    refine ⟨rfl, ?_, rfl⟩
    simp [joinEnvelope, serializeLoginCommand, kMaxNetworkPayloadBytes, podBytes_length, Pod.size]
  have polled : hostStep transport host (joinCall clientId) =
      host.handleEnvelope transport (joinEnvelope clientId) := rfl
  rw [polled]
  unfold handleEnvelope
  rw [if_neg (not_not.mpr isOk),
    show (joinEnvelope clientId).messageClass = .loginRequest from rfl]

/-- An input of a client as it is polled. -/
def inputOf (packet : ClientInputPacket) : NetworkEnvelope :=
  { inputEnvelope packet with peerId := packet.header.clientId }

theorem input_pumped (host : ServerNetworkHost) (packet : ClientInputPacket) :
    (host.handleEnvelope transport (inputOf packet)).runtime.simulation =
      (submitInput host.runtime.simulation packet).1 := by
  have isOk : (inputOf packet).Ok := by
    rw [envelope_ok_iff]
    refine ⟨rfl, ?_, rfl⟩
    simp [inputOf, inputEnvelope, serializeClientInputPacket, kMaxNetworkPayloadBytes,
      podBytes_length, Pod.size, boolByte]
  have decoded : deserializeClientInputPacket (inputOf packet).payload = some packet :=
    (decode_iff readClientInputPacket_exact _ _).mpr rfl
  have handled : host.handleEnvelope transport (inputOf packet) =
      host.handleInputEnvelope (inputOf packet) := by
    unfold handleEnvelope
    rw [if_neg (not_not.mpr isOk), show (inputOf packet).messageClass = .clientInput from rfl]
  rw [handled, input_simulation, decoded]
  rfl

/-! The calls. -/

def joinCalls (players : Nat) : List HostCall :=
  (List.range players).map fun seat => joinCall (clientAt seat)

def volleyCall (players rounds : Nat) : HostCall :=
  .pumpClientMessages ((volley players rounds).map inputOf)

def tickCall (ticks : Nat) : HostCall :=
  .tickAndSendSnapshots .stored .stored (UInt64.ofNat (16 * (ticks + 1)))

/-- Every player fires, and the ticks pass until the bows are let go. -/
def roundCalls (players rounds : Nat) : List HostCall :=
  volleyCall players rounds :: (List.range 20).map fun tick => tickCall (20 * rounds + tick)

def crowdCalls (players rounds : Nat) : List HostCall :=
  joinCalls players ++ (List.range rounds).flatMap (roundCalls players)

theorem join_calls_succ (players : Nat) :
    joinCalls (players + 1) = joinCalls players ++ [joinCall (clientAt players)] := by
  unfold joinCalls
  rw [List.range_succ, List.map_append, List.map_singleton]

theorem crowd_calls_succ (players rounds : Nat) :
    crowdCalls players (rounds + 1) = crowdCalls players rounds ++ roundCalls players rounds := by
  unfold crowdCalls
  rw [List.range_succ, List.flatMap_append, List.flatMap_singleton, List.append_assoc]

theorem crowd_calls_own (players rounds : Nat) :
    ∀ call ∈ crowdCalls players rounds, OwnCall call := by
  simp only [crowdCalls, joinCalls, roundCalls, volleyCall, tickCall, joinCall, List.mem_append,
    List.mem_map, List.mem_flatMap, List.mem_cons]
  rintro call (⟨_, _, rfl⟩ | ⟨_, _, rfl | ⟨_, _, rfl⟩⟩)
  · trivial
  · trivial
  · trivial

/-- The players have joined, and the host sends them snapshots. -/
structure AllJoined (players : Nat) (host : ServerNetworkHost) : Prop where
  rested : Rested players 0 host.runtime.simulation
  seats : host.runtime.simulation.playerByClient.size ≤ players
  enrolled : ∀ seat < players, clientAt seat ∈ host.clients

/-- An empty server is an empty crowd. -/
theorem new_rested : Rested 0 0 (ServerNetworkHost.new {}).runtime.simulation := by
  have crowd : Crowd 0 0 Ready (ServerNetworkHost.new {}).runtime.simulation := by
    constructor
    case configured => rfl
    case stands => exact fun _ seated => absurd seated (Nat.not_lt_zero _)
    case shots =>
      intro entity row _ present
      simp [ServerNetworkHost.new, ServerRuntime.new] at present
    case live => exact fun _ below => absurd below (Nat.not_lt_zero _)
  exact ⟨⟨crowd, rfl, rfl, identified_start _ rfl⟩, rfl,
    fun _ seated => absurd seated (Nat.not_lt_zero _)⟩

theorem join_joins {players : Nat} (room : players < kSeats) {host : ServerNetworkHost}
    (joined : AllJoined players host) :
    AllJoined (players + 1) (hostStep transport host (joinCall (clientAt players))) := by
  obtain ⟨rested, seats, enrolled⟩ := joined
  obtain ⟨now, taken⟩ :=
    @login_seats _ _ rested room seats { header := { clientId := clientAt players } } rfl rfl
  have unknown := next_is_new rested room
  have free : ¬ host.runtime.simulation.config.maxPlayers.toNat ≤
      host.runtime.simulation.playerByClient.size := by
    rw [rested.gathered.crowd.configured]
    exact Nat.not_le.mpr (Nat.lt_of_le_of_lt seats room)
  have accepted : (host.runtime.connectClient (clientAt players) 0).2 = true := by
    unfold ServerRuntime.connectClient submitLogin
    dsimp only
    rw [if_neg unknown, if_neg free]
  obtain ⟨member, runtime, _⟩ := LoginAnswers.login_accepted host
    (joinEnvelope (clientAt players)) _ (join_decoded _) accepted
  have waits (clientId : ClientId) :=
    step_waits transport host (joinCall (clientAt players)) clientId
  rw [join_handled] at waits ⊢
  refine ⟨?_, ?_, ?_⟩
  · rw [runtime]
    exact now
  · rw [runtime]
    exact taken
  · intro seat seated
    by_cases old : seat < players
    · exact (waits _).enrolled (enrolled seat old)
    · have isNew : seat = players := by omega
      rw [isNew]
      exact member

theorem joins_join {players : Nat} (few : players ≤ kSeats) :
    AllJoined players (hostRun transport {} (joinCalls players)) := by
  induction players with
  | zero => exact ⟨new_rested, Nat.zero_le _, fun _ seated => absurd seated (Nat.not_lt_zero _)⟩
  | succ players ih =>
      unfold hostRun at ih ⊢
      rw [join_calls_succ, Runs.run_append]
      exact join_joins transport few (ih (by omega))

/-! Rounds. -/

theorem volley_pumped (host : ServerNetworkHost) (players rounds : Nat) :
    (hostStep transport host (volleyCall players rounds)).runtime.simulation =
      submitAll host.runtime.simulation (volley players rounds) := by
  change (((volley players rounds).map inputOf).foldl (handleEnvelope transport)
    host).runtime.simulation = _
  unfold submitAll
  induction volley players rounds generalizing host with
  | nil => rfl
  | cons packet rest ih =>
      rw [List.map_cons, List.foldl_cons, List.foldl_cons, ih, input_pumped]

theorem tick_ticks (host : ServerNetworkHost) (ticks : Nat) :
    (hostStep transport host (tickCall ticks)).runtime.simulation =
      hostTick .stored host.runtime.simulation :=
  tick_simulation transport .stored .stored host (UInt64.ofNat (16 * (ticks + 1)))

/-- The ticks in which all the bows are drawn. -/
theorem ticks_wait {players rounds : Nat} (few : players ≤ kSeats) (soon : rounds < 6)
    {host : ServerNetworkHost} (draws : Waiting players rounds 0 host.runtime.simulation)
    {passed : Nat} (early : passed ≤ 18) :
    Waiting players rounds passed
      (Runs.run (hostStep transport) host ((List.range passed).map fun tick =>
        tickCall (20 * rounds + (tick + 1)))).runtime.simulation := by
  induction passed with
  | zero => exact draws
  | succ passed ih =>
      rw [List.range_succ, List.map_append, Runs.run_append]
      change Waiting players rounds (passed + 1)
        (hostStep transport _ (tickCall _)).runtime.simulation
      rw [tick_ticks]
      exact round_waits .stored (ih (by omega)) few soon early

theorem round_rests {players rounds : Nat} (few : players ≤ kSeats) (soon : rounds < 6)
    {host : ServerNetworkHost} (rested : Rested players rounds host.runtime.simulation) :
    Rested players (rounds + 1)
      (Runs.run (hostStep transport) host (roundCalls players rounds)).runtime.simulation := by
  have draws := round_draws .stored rested few soon
  rw [← volley_pumped transport, ← tick_ticks transport _ (20 * rounds + 0)] at draws
  have fires := round_fires .stored (ticks_wait transport few soon draws (Nat.le_refl 18)) few soon
  rw [← tick_ticks transport _ (20 * rounds + 19)] at fires
  have ticks : List.range 20 = 0 :: ((List.range 18).map (· + 1) ++ [19]) := rfl
  unfold roundCalls
  rw [ticks, List.map_cons, List.map_append, List.map_map, List.map_singleton, Runs.run_cons,
    Runs.run_cons, Runs.run_append, Runs.run_cons, Runs.run_nil]
  have same : ((fun tick => tickCall (20 * rounds + tick)) ∘ fun x => x + 1) =
      fun tick => tickCall (20 * rounds + (tick + 1)) := rfl
  rw [same]
  exact fires

/-- The crowd after so many rounds. -/
theorem crowd_rests {players rounds : Nat} (few : players ≤ kSeats) (soon : rounds ≤ 6) :
    Rested players rounds
      (hostRun transport {} (crowdCalls players rounds)).runtime.simulation := by
  induction rounds with
  | zero =>
      unfold crowdCalls
      rw [List.range_zero, List.flatMap_nil, List.append_nil]
      exact (joins_join transport few).rested
  | succ rounds ih =>
      unfold hostRun at ih ⊢
      rw [crowd_calls_succ, Runs.run_append]
      exact round_rests transport few soon (ih (by omega))

theorem crowd_enrolled {players : Nat} (few : players ≤ kSeats) (rounds : Nat) {seat : Nat}
    (seated : seat < players) :
    clientAt seat ∈ (hostRun transport {} (crowdCalls players rounds)).clients := by
  have joined := (joins_join transport few).enrolled seat seated
  unfold hostRun crowdCalls at *
  rw [Runs.run_append]
  exact (run_waits transport _ _ _).enrolled joined

end Host

/-! What the seventh client sees. -/

theorem stander_beside {players ticks volleys : Nat}
    {phase : AimComponent → WeaponStateComponent → Prop} {sim : GameSimulation}
    (gathered : Gathered players ticks volleys phase sim) (few : players ≤ kSeats)
    (short : ticks ≤ kTicks) {entity : Entity} {row : Components}
    (present : sim.registry.get? entity = some row) :
    ∃ seat < kSeats, ∃ drift ≤ kDrift, ∃ place, row.transform = some place ∧
      Beside seat drift place := by
  by_cases seated : entity < players
  · obtain ⟨aim, weapon, isStander, _⟩ := gathered.crowd.stands entity seated
    rw [present] at isStander
    cases isStander
    have isSeat := Nat.lt_of_lt_of_le seated few
    exact ⟨entity, isSeat, 0, Nat.zero_le _, home entity, rfl, home_beside isSeat⟩
  · obtain ⟨seat, isSeat, drift, within, place, placed, beside, _⟩ :=
      (gathered.crowd.shots entity row (Nat.le_of_not_lt seated) present).near
    refine ⟨seat, isSeat, drift, ?_, place, placed, beside⟩
    unfold kDrift kTicks at *
    omega

/-- Every entity of the crowd is visible to the seventh client. -/
theorem crowd_visible {players ticks volleys : Nat}
    {phase : AimComponent → WeaponStateComponent → Prop} {sim : GameSimulation}
    (gathered : Gathered players ticks volleys phase sim) (few : players ≤ kSeats)
    (short : ticks ≤ kTicks) (rare : volleys ≤ 8) (isObserver : 6 < players) :
    (visibleEntities sim (clientAt 6)).length = players * (volleys + 1) := by
  have room := gathered_room gathered few rare
  obtain ⟨aim, weapon, isStander, _⟩ := gathered.crowd.stands 6 isObserver
  have stands : PlayerAt sim (clientAt 6) (idOf 6) 6 (standerRow 6 aim weapon) (home 6) :=
    ⟨isStander, rfl, rfl, rfl⟩
  obtain ⟨entry, named, _⟩ := identified_player gathered.identified room stands
  have placed : (standerRow 6 aim weapon).transform = some (home 6) := rfl
  have chunk := observer_chunk_of_player entry named isStander rfl placed rfl
  have extent : HasExtent sim.config.map := by
    rw [gathered.crowd.configured]
    exact ⟨by decide, by decide, by decide, by decide, by decide, by decide⟩
  have all : visibleEntities sim (clientAt 6) = List.range sim.registry.created := by
    apply List.filter_eq_self.mpr
    intro entity member
    obtain ⟨row, present⟩ := Option.isSome_iff_exists.mp
      (gathered.crowd.live entity (List.mem_range.mp member))
    obtain ⟨seat, isSeat, drift, within, place, placed, beside⟩ :=
      stander_beside gathered few short present
    rw [present, Option.any_some, visible_iff extent chunk (by rw [placed]; rfl)]
    refine Or.inr ⟨place, placed, ?_⟩
    rw [gathered.crowd.configured]
    exact beside_in_area within isSeat beside
  rw [all, List.length_range, gathered.created]

/-- After three volleys of a full server its snapshot fits no envelope, and a
connected transport refuses it. -/
theorem snapshot_outgrows_envelope :
    let host := hostRun validates {} (crowdCalls kSeats 3)
    (∀ call ∈ crowdCalls kSeats 3, OwnCall call) ∧ clientAt 6 ∈ host.clients ∧
      ¬ (envelopeFor (clientAt 6)
        (.snapshot (host.plannedSnapshot .stored (clientAt 6)).snapshot none)).Ok ∧
      (host.sendSnapshot validates .stored .stored 976 (clientAt 6)).2 = false := by
  have own := crowd_calls_own kSeats 3
  have rested := crowd_rests validates (Nat.le_refl kSeats) (show 3 ≤ 6 by decide)
  have config := (HostBookkeeping.host_run_progress validates {} (crowdCalls kSeats 3)).config
  have fight := host_run_fights validates {} _ own
  have outgrown : ¬ (envelopeFor (clientAt 6) (.snapshot
      ((hostRun validates {} (crowdCalls kSeats 3)).plannedSnapshot .stored
        (clientAt 6)).snapshot none)).Ok := by
    rw [planned_fits_iff .stored _ (clientAt 6) (by rw [config]; rfl) fight,
      crowd_visible rested.gathered (Nat.le_refl kSeats) (by decide) (by decide) (by decide)]
    decide
  refine ⟨own, crowd_enrolled _ (Nat.le_refl kSeats) 3 (by decide), outgrown, ?_⟩
  rw [← Bool.not_eq_true, validated_send_iff .stored .stored 976 _ (clientAt 6) none]
  exact outgrown

end Brawololo.CrowdRounds
