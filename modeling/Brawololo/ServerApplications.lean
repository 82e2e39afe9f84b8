import Brawololo.HostOracles
import Brawololo.HostSimulation

/-!
The application of a server. It owns its transport, makes a host when it starts,
and drives the host tick by tick until it is asked to stop. A start makes a new
host, whatever the one before has heard.
-/

namespace Brawololo.ServerApplications

open GameTypes NetworkProtocol Simulation SimulationStages Server ServerNetworkHost Client
open HostTurns HostTransports HostSimulation Oracles HostOracles

universe u

/-- What the application calls of an `ITransport`. -/
structure IServerTransport (Link : Type u) extends ITransport Link where
  close : Link → Link

structure ServerApplicationConfig where
  tickDurationMs : TimestampMs := 16
  network : ServerNetworkHostConfig := {}
  deriving DecidableEq

structure ServerApplicationStats where
  ticksRun : Tick := 0
  running : Bool := false
  network : ServerNetworkStats := {}
  deriving DecidableEq

structure ServerApplication (Link : Type u) where
  /-- Empty when the application was made without a transport. -/
  transport : Option Link
  config : ServerApplicationConfig := {}
  networkHost : Option ServerNetworkHost := none
  ticksRun : Tick := 0
  running : Bool := false

/-- What a tick depends on besides its time: how often the transport is polled at
most, and the orders of loops over hash maps. -/
structure TickChoice where
  polls : Nat
  order : LoopOrder
  hostOrder : HostOrder

section Application

variable {Link : Type u} (io : IServerTransport Link)

namespace ServerApplication

def start (app : ServerApplication Link) : Bool × ServerApplication Link :=
  match app.transport with
  | none => (false, app)
  | some link =>
      let connected := io.connect link
      if !connected.1 then (false, { app with transport := some connected.2 })
      else
        (true,
          { app with
            transport := some connected.2
            networkHost := some (.new app.config.network)
            running := true })

def requestStop (app : ServerApplication Link) : ServerApplication Link :=
  { app with running := false, transport := app.transport.map io.close }

def tickOnce (choice : TickChoice) (app : ServerApplication Link) (nowMs : TimestampMs) :
    ServerApplication Link :=
  match app.running, app.transport, app.networkHost with
  | true, some link, some host =>
      let pumped := Hosted.pumpClientMessages io.toITransport choice.polls
        { link := io.update link, host := host }
      let ticked := pumped.tickAndSendSnapshots io.toITransport choice.order choice.hostOrder nowMs
      { app with
        transport := some ticked.link
        networkHost := some ticked.host
        ticksRun := app.ticksRun + 1 }
  | _, _, _ => app

/-- The time of the tick at an index of the loop of `RunForTicks`. -/
def tickTimeAt (app : ServerApplication Link) (startTimeMs : TimestampMs) (index : Nat) :
    TimestampMs :=
  startTimeMs + UInt64.ofNat index * app.config.tickDurationMs

/-- The loop of `RunForTicks` with so many turns left. -/
def runFrom (choices : Nat → TickChoice) (startTimeMs : TimestampMs) :
    Nat → Nat → ServerApplication Link → ServerApplication Link
  | 0, _, app => app
  | left + 1, index, app =>
      if !app.running then app
      else
        runFrom choices startTimeMs left (index + 1)
          (app.tickOnce io (choices index) (app.tickTimeAt startTimeMs index))

def runForTicks (choices : Nat → TickChoice) (app : ServerApplication Link) (tickCount : Nat)
    (startTimeMs : TimestampMs) : ServerApplication Link :=
  runFrom io choices startTimeMs tickCount 0 app

def stats (app : ServerApplication Link) : ServerApplicationStats where
  ticksRun := app.ticksRun
  running := app.running
  network := (app.networkHost.map fun host => host.stats).getD {}

end ServerApplication

/-- The calls on an application, those on its host through `NetworkHost()`, and
what happens to its transport between them. -/
inductive ServerCall (Link : Type u) where
  | start
  | requestStop
  | tickOnce (choice : TickChoice) (nowMs : TimestampMs)
  | runForTicks (choices : Nat → TickChoice) (tickCount : Nat) (startTimeMs : TimestampMs)
  | networkHost (turn : HostedTurn Link)
  | transport (change : Link → Link)

def serverStep (app : ServerApplication Link) : ServerCall Link → ServerApplication Link
  | .start => (app.start io).2
  | .requestStop => app.requestStop io
  | .tickOnce choice nowMs => app.tickOnce io choice nowMs
  | .runForTicks choices tickCount startTimeMs =>
      app.runForTicks io choices tickCount startTimeMs
  | .networkHost turn =>
      match app.transport, app.networkHost with
      | some link, some host =>
          let hosted := hostedStep io.toITransport { link := link, host := host } turn
          { app with transport := some hosted.link, networkHost := some hosted.host }
      | _, _ => app
  | .transport change => { app with transport := app.transport.map change }

/-! The books of an application. -/

/-- An application that is running, with what it needs for a tick. -/
def ready (app : ServerApplication Link) : Bool :=
  app.running && app.transport.isSome && app.networkHost.isSome

/-- What one tick does with the host and the transport. -/
def tickTurns (choice : TickChoice) (nowMs : TimestampMs) : List (HostedTurn Link) :=
  [.transport io.update, .pumpClientMessages choice.polls,
    .tickAndSendSnapshots choice.order choice.hostOrder nowMs]

def tickCalls (choice : TickChoice) (app : ServerApplication Link) (nowMs : TimestampMs) :
    List HostCall :=
  match app.running, app.transport, app.networkHost with
  | true, some link, some host =>
      hostedCalls io.toITransport { link := link, host := host } (tickTurns io choice nowMs)
  | _, _, _ => []

def runCalls (choices : Nat → TickChoice) (startTimeMs : TimestampMs) :
    Nat → Nat → ServerApplication Link → List HostCall
  | 0, _, _ => []
  | left + 1, index, app =>
      if !app.running then []
      else
        tickCalls io (choices index) app (app.tickTimeAt startTimeMs index) ++
          runCalls choices startTimeMs left (index + 1)
            (app.tickOnce io (choices index) (app.tickTimeAt startTimeMs index))

/-- The calls on the host that a call on the application makes. -/
def callsIn (app : ServerApplication Link) : ServerCall Link → List HostCall
  | .tickOnce choice nowMs => tickCalls io choice app nowMs
  | .runForTicks choices tickCount startTimeMs =>
      runCalls io choices startTimeMs tickCount 0 app
  | .networkHost turn =>
      match app.transport, app.networkHost with
      | some link, some host => callsOf io.toITransport { link := link, host := host } turn
      | _, _ => []
  | _ => []

/-- The ticks that a call makes. -/
def ticksIn (app : ServerApplication Link) : ServerCall Link → Nat
  | .tickOnce _ _ => if ready app then 1 else 0
  | .runForTicks _ tickCount _ => if ready app then tickCount else 0
  | _ => 0

/-- An application, the calls on its host since that was made, and the ticks of
every host it had. -/
structure Books (Link : Type u) where
  app : ServerApplication Link
  calls : List HostCall := []
  ticks : Nat := 0

def booksStep (books : Books Link) (call : ServerCall Link) : Books Link where
  app := serverStep io books.app call
  calls :=
    match call with
    | .start => if (books.app.start io).1 then [] else books.calls
    | call => books.calls ++ callsIn io books.app call
  ticks := books.ticks + ticksIn books.app call

def booksRun (transport : Option Link) (config : ServerApplicationConfig)
    (calls : List (ServerCall Link)) : Books Link :=
  Runs.run (booksStep io) { app := { transport := transport, config := config } } calls

end Application

/-! The clock of a host. -/

def isTick : HostCall → Bool
  | .tickAndSendSnapshots _ _ _ => true
  | _ => false

/-- The simulation has made so many ticks. -/
structure Clocked (config : SimulationConfig) (ticks : Nat) (sim : GameSimulation) : Prop where
  configured : sim.config = config
  tick : sim.tick = UInt64.ofNat ticks
  timeMs : sim.timeMs = UInt64.ofNat ticks * sim.config.tickDurationMs

section Clock

variable {config : SimulationConfig} {ticks : Nat} {sim : GameSimulation}

theorem login_clocked (command : LoginCommand) (clocked : Clocked config ticks sim) :
    Clocked config ticks (submitLogin sim command).1 := by
  unfold submitLogin
  dsimp only
  split
  · exact clocked
  · split
    · exact clocked
    · exact ⟨clocked.configured, clocked.tick, clocked.timeMs⟩

theorem input_clocked (packet : ClientInputPacket) (clocked : Clocked config ticks sim) :
    Clocked config ticks (submitInput sim packet).1 := by
  unfold Simulation.submitInput
  dsimp only
  split
  · exact clocked
  · split
    · exact clocked
    · exact ⟨clocked.configured, clocked.tick, clocked.timeMs⟩

/-- A tick counts itself. -/
theorem tick_counts (order : LoopOrder) (sim : GameSimulation) :
    (tickFixed order sim).tick = sim.tick + 1 := by
  have inputs := process_inputs_tables order (advanceClock sim)
  have rest := ((process_warmups_setup order _).trans (process_projectiles_setup order _)).trans
    (process_respawns_setup order (processProjectiles order (processWeaponWarmups order
      (processInputs order (advanceClock sim)))))
  exact rest.tick.trans inputs.tick

theorem tick_clocked (order : LoopOrder) (clocked : Clocked config ticks sim) :
    Clocked config (ticks + 1) (tickFixed order sim) := by
  obtain ⟨sameConfig, _, _⟩ := tick_setup order sim
  constructor
  · exact sameConfig.trans clocked.configured
  · rw [tick_counts, clocked.tick, UInt64.ofNat_add]
    rfl
  · have one : UInt64.ofNat 1 = 1 := rfl
    rw [tick_advances, clocked.timeMs, sameConfig, UInt64.ofNat_add, UInt64.add_mul, one,
      UInt64.one_mul]

theorem drained_clocked (clocked : Clocked config ticks sim) :
    Clocked config ticks { sim with events := [] } :=
  ⟨clocked.configured, clocked.tick, clocked.timeMs⟩

variable (transport : Transport)

theorem envelope_clocked (host : ServerNetworkHost) (envelope : NetworkEnvelope)
    (clocked : Clocked config ticks host.runtime.simulation) :
    Clocked config ticks (host.handleEnvelope transport envelope).runtime.simulation := by
  unfold handleEnvelope
  split
  · exact clocked
  · split
    · rcases login_simulation host envelope with same | ⟨joining, nowMs, connected⟩
      · rw [same]
        exact clocked
      · rw [connected]
        exact login_clocked _ clocked
    · rw [input_simulation]
      cases Serialization.deserializeClientInputPacket envelope.payload with
      | none => exact clocked
      | some packet => exact input_clocked packet clocked
    · rw [snapshot_ack_runtime]
      exact clocked
    · rw [event_ack_runtime]
      exact clocked
    · rw [time_sync_runtime]
      exact clocked
    · exact clocked

theorem host_step_clocked (host : ServerNetworkHost) (call : HostCall) (own : OwnCall call)
    (clocked : Clocked config ticks host.runtime.simulation) :
    Clocked config (ticks + if isTick call then 1 else 0)
      (hostStep transport host call).runtime.simulation := by
  cases call with
  | connectSimulationOnlyClient clientId nowMs => exact login_clocked _ clocked
  | pumpClientMessages polled =>
      exact Runs.run_invariant (handleEnvelope transport)
        (fun between => Clocked config ticks between.runtime.simulation)
        (fun between envelope kept => envelope_clocked transport between envelope kept)
        host clocked polled
  | tickAndSendSnapshots order hostOrder nowMs =>
      have ticked : Clocked config (ticks + 1) (tickedSimulation order host) :=
        drained_clocked (tick_clocked order clocked)
      rw [← tick_simulation transport order hostOrder host nowMs] at ticked
      exact ticked
  | drainEvents => exact clocked
  | buildSnapshotFor => exact clocked
  | changeRuntime runtime => cases own

/-- The clock of a host tells how often it ticked. -/
theorem host_run_clocked (config : ServerNetworkHostConfig) (calls : List HostCall)
    (own : ∀ call ∈ calls, OwnCall call) :
    Clocked { mode := .serverAuthoritative } (calls.countP isTick)
      (hostRun transport config calls).runtime.simulation := by
  unfold hostRun
  induction calls using List.reverseRecOn with
  | nil => exact ⟨rfl, rfl, by rfl⟩
  | append_singleton calls call ih =>
      have before := ih fun other member => own other (List.mem_append_left [call] member)
      have after := host_step_clocked transport _ call
        (own call (List.mem_append_right calls List.mem_cons_self)) before
      rw [Runs.run_append, List.countP_append, List.countP_singleton]
      exact after

end Clock

section Runs

variable {Link : Type u} (io : IServerTransport Link)

/-- A call that leaves the runtime of the host to the host. -/
def OwnServerCall : ServerCall Link → Prop
  | .networkHost (.changeRuntime _) => False
  | _ => True

/-- The invariant of the books. -/
structure Kept (config : ServerApplicationConfig) (books : Books Link) : Prop where
  configured : books.app.config = config
  equipped : books.app.running = true →
    books.app.transport.isSome ∧ books.app.networkHost.isSome
  counted : books.app.ticksRun = UInt64.ofNat books.ticks
  own : ∀ call ∈ books.calls, OwnCall call
  served : ∀ host, books.app.networkHost = some host →
    Realised hostStep (.new config.network) books.calls host

variable {config : ServerApplicationConfig} {books : Books Link}

/-- The books after the host and the transport have gone through these turns. -/
def afterTurns (books : Books Link) (link : Link) (host : ServerNetworkHost)
    (turns : List (HostedTurn Link)) (ticked : Nat) : Books Link :=
  let reached := Runs.run (hostedStep io.toITransport) { link := link, host := host } turns
  { app :=
      { books.app with
        transport := some reached.link
        networkHost := some reached.host
        ticksRun := books.app.ticksRun + UInt64.ofNat ticked }
    calls := books.calls ++ hostedCalls io.toITransport { link := link, host := host } turns
    ticks := books.ticks + ticked }

theorem turns_kept (kept : Kept config books) (link : Link) {host : ServerNetworkHost}
    (hosts : books.app.networkHost = some host) (turns : List (HostedTurn Link)) (ticked : Nat)
    (own : ∀ call ∈ hostedCalls io.toITransport { link := link, host := host } turns,
      OwnCall call) : Kept config (afterTurns io books link host turns ticked) where
  configured := kept.configured
  equipped _ := ⟨rfl, rfl⟩
  counted := by
    unfold afterTurns
    rw [kept.counted, UInt64.ofNat_add]
  own := by
    intro call member
    rcases List.mem_append.mp member with earlier | later
    · exact kept.own call earlier
    · exact own call later
  served := by
    rintro after ⟨rfl⟩
    exact realised_trans host_step_local (kept.served host hosts)
      (turns_realised turns { link := link, host := host })

theorem tick_turns_own (choice : TickChoice) (nowMs : TimestampMs) (hosted : Hosted Link) :
    ∀ call ∈ hostedCalls io.toITransport hosted (tickTurns io choice nowMs), OwnCall call := by
  intro call member
  rcases List.mem_cons.mp member with isPump | others
  · rw [isPump]
    trivial
  · rw [List.mem_singleton.mp others]
    trivial

theorem ready_iff {app : ServerApplication Link} :
    ready app = true ↔ app.running = true ∧ (∃ link, app.transport = some link) ∧
      ∃ host, app.networkHost = some host := by
  simp [ready, Option.isSome_iff_exists, and_assoc]

/-- A tick of an application that is not ready is none. -/
theorem tick_idle (choice : TickChoice) {app : ServerApplication Link} (idle : ¬ ready app = true)
    (nowMs : TimestampMs) :
    app.tickOnce io choice nowMs = app ∧ tickCalls io choice app nowMs = [] := by
  rw [ready_iff] at idle
  constructor
  · unfold ServerApplication.tickOnce
    split
    · next link host running isLink isHost =>
        exact absurd ⟨running, ⟨link, isLink⟩, ⟨host, isHost⟩⟩ idle
    · rfl
  · unfold tickCalls
    split
    · next link host running isLink isHost =>
        exact absurd ⟨running, ⟨link, isLink⟩, ⟨host, isHost⟩⟩ idle
    · rfl

theorem tick_kept (kept : Kept config books) (choice : TickChoice) (nowMs : TimestampMs) :
    Kept config
      { app := books.app.tickOnce io choice nowMs
        calls := books.calls ++ tickCalls io choice books.app nowMs
        ticks := books.ticks + if ready books.app then 1 else 0 } := by
  by_cases isReady : ready books.app = true
  · obtain ⟨running, ⟨link, isLink⟩, ⟨host, isHost⟩⟩ := ready_iff.mp isReady
    have turned := turns_kept io kept link isHost (tickTurns io choice nowMs) 1
      (tick_turns_own io choice nowMs _)
    have isTick : books.app.tickOnce io choice nowMs =
        (afterTurns io books link host (tickTurns io choice nowMs) 1).app := by
      unfold ServerApplication.tickOnce afterTurns
      dsimp only
      rw [running, isLink, isHost]
      rfl
    have isCalls : tickCalls io choice books.app nowMs =
        hostedCalls io.toITransport { link := link, host := host } (tickTurns io choice nowMs) := by
      unfold tickCalls
      rw [running, isLink, isHost]
    rw [isTick, isCalls, if_pos isReady]
    exact turned
  · obtain ⟨same, silent⟩ := tick_idle io choice isReady nowMs
    rw [same, silent, if_neg isReady, List.append_nil]
    exact kept

/-- A tick leaves an application as ready as it was, and its configuration alone. -/
theorem tick_ready (choice : TickChoice) (app : ServerApplication Link) (nowMs : TimestampMs) :
    ready (app.tickOnce io choice nowMs) = ready app ∧
    (app.tickOnce io choice nowMs).config = app.config := by
  by_cases isReady : ready app = true
  · obtain ⟨running, ⟨link, isLink⟩, ⟨host, isHost⟩⟩ := ready_iff.mp isReady
    unfold ServerApplication.tickOnce
    rw [isReady, running, isLink, isHost]
    exact ⟨rfl, rfl⟩
  · obtain ⟨same, _⟩ := tick_idle io choice isReady nowMs
    rw [same]
    exact ⟨rfl, rfl⟩

theorem loop_kept (choices : Nat → TickChoice) (startTimeMs : TimestampMs) (left index : Nat)
    (kept : Kept config books) :
    Kept config
      { app := books.app.runFrom io choices startTimeMs left index
        calls := books.calls ++ runCalls io choices startTimeMs left index books.app
        ticks := books.ticks + if ready books.app then left else 0 } := by
  induction left generalizing books index with
  | zero =>
      rw [ServerApplication.runFrom, runCalls, List.append_nil, ite_self]
      exact kept
  | succ left ih =>
      unfold ServerApplication.runFrom runCalls
      by_cases running : books.app.running = true
      · -- the application is ready, and so it is for every turn of the loop
        obtain ⟨hasLink, hasHost⟩ := kept.equipped running
        have isReady : ready books.app = true := by
          simp [ready, running, hasLink, hasHost]
        have ticked := tick_kept io kept (choices index) (books.app.tickTimeAt startTimeMs index)
        have looped := ih (index + 1) ticked
        have stays := (tick_ready io (choices index) books.app
          (books.app.tickTimeAt startTimeMs index)).1
        rw [if_pos isReady] at looped
        dsimp only at looped
        rw [stays, if_pos isReady, List.append_assoc, Nat.add_assoc, Nat.add_comm 1] at looped
        rw [running, isReady]
        exact looped
      · have stopped : books.app.running = false := Bool.not_eq_true _ ▸ running
        have idle : ready books.app = false := by simp [ready, stopped]
        rw [stopped, idle]
        simpa using kept

theorem turn_own (turn : HostedTurn Link) (own : OwnServerCall (.networkHost turn))
    (hosted : Hosted Link) : ∀ call ∈ callsOf io.toITransport hosted turn, OwnCall call := by
  intro call member
  cases turn with
  | changeRuntime runtime => exact absurd own id
  | transport change => cases member
  | connectSimulationOnlyClient clientId nowMs =>
      rw [List.mem_singleton.mp member]
      trivial
  | pumpClientMessages polls =>
      rw [List.mem_singleton.mp member]
      trivial
  | tickAndSendSnapshots order hostOrder nowMs =>
      rw [List.mem_singleton.mp member]
      trivial
  | drainEvents =>
      rw [List.mem_singleton.mp member]
      trivial
  | buildSnapshotFor =>
      rw [List.mem_singleton.mp member]
      trivial

theorem start_kept (kept : Kept config books) : Kept config (booksStep io books .start) := by
  unfold booksStep
  dsimp only [serverStep, ticksIn]
  rw [Nat.add_zero]
  cases isLink : books.app.transport with
  | none =>
      have failed : books.app.start io = (false, books.app) := by
        unfold ServerApplication.start
        rw [isLink]
      rw [failed]
      exact kept
  | some link =>
      unfold ServerApplication.start
      rw [isLink]
      dsimp only
      split
      · exact ⟨kept.configured, fun running => ⟨rfl, (kept.equipped running).2⟩, kept.counted,
          kept.own, kept.served⟩
      · refine ⟨kept.configured, fun _ => ⟨rfl, rfl⟩, kept.counted, by simp, ?_⟩
        rintro host ⟨rfl⟩
        rw [kept.configured]
        exact realised_nothing _ _

/-- A call that asks nothing of the host, and starts no running application. -/
theorem silent_kept {app : ServerApplication Link} (kept : Kept config books)
    (sameConfig : app.config = books.app.config)
    (sameHost : app.networkHost = books.app.networkHost)
    (sameTicks : app.ticksRun = books.app.ticksRun)
    (equipped : app.running = true → app.transport.isSome ∧ app.networkHost.isSome) :
    Kept config { app := app, calls := books.calls ++ [], ticks := books.ticks } where
  configured := sameConfig.trans kept.configured
  equipped := equipped
  counted := sameTicks.trans kept.counted
  own := by
    rw [List.append_nil]
    exact kept.own
  served := by
    rw [List.append_nil, sameHost]
    exact kept.served

theorem network_host_kept (turn : HostedTurn Link) (own : OwnServerCall (.networkHost turn))
    (kept : Kept config books) : Kept config (booksStep io books (.networkHost turn)) := by
  unfold booksStep
  dsimp only [serverStep, callsIn, ticksIn]
  rw [Nat.add_zero]
  split
  · next link host isLink isHost =>
      have turnOwn : ∀ call ∈ hostedCalls io.toITransport { link := link, host := host } [turn],
          OwnCall call := by
        intro call member
        rw [hostedCalls, hostedCalls, List.append_nil] at member
        exact turn_own io turn own _ call member
      have turned := turns_kept io kept link isHost [turn] 0 turnOwn
      unfold afterTurns at turned
      rw [hostedCalls, hostedCalls, List.append_nil] at turned
      simpa using turned
  · rw [List.append_nil]
    exact kept

theorem books_step_kept (call : ServerCall Link) (own : OwnServerCall call)
    (kept : Kept config books) : Kept config (booksStep io books call) := by
  cases call with
  | start => exact start_kept io kept
  | requestStop =>
      refine silent_kept kept rfl rfl rfl ?_
      intro running
      cases running
  | tickOnce choice nowMs => exact tick_kept io kept choice nowMs
  | runForTicks choices tickCount startTimeMs =>
      exact loop_kept io choices startTimeMs tickCount 0 kept
  | networkHost turn => exact network_host_kept io turn own kept
  | transport change =>
      refine silent_kept kept rfl rfl rfl ?_
      intro running
      obtain ⟨hasLink, hasHost⟩ := kept.equipped running
      exact ⟨by rw [serverStep, Option.isSome_map]; exact hasLink, hasHost⟩

theorem run_from_stopped (choices : Nat → TickChoice) (startTimeMs : TimestampMs)
    (left index : Nat) {app : ServerApplication Link} (stopped : app.running = false) :
    app.runFrom io choices startTimeMs left index = app := by
  cases left with
  | zero => rfl
  | succ left =>
      rw [ServerApplication.runFrom, stopped]
      rfl

/-- The loop of `RunForTicks` is one `TickOnce` for every turn. -/
theorem run_from_ticks (choices : Nat → TickChoice) (startTimeMs : TimestampMs)
    (left index : Nat) (app : ServerApplication Link) :
    app.runFrom io choices startTimeMs left index =
      Runs.run (serverStep io) app ((List.range' index left).map fun index =>
        .tickOnce (choices index) (app.tickTimeAt startTimeMs index)) := by
  induction left generalizing index app with
  | zero => rfl
  | succ left ih =>
      let nowMs := app.tickTimeAt startTimeMs index
      obtain ⟨stays, sameConfig⟩ := tick_ready io (choices index) app nowMs
      have sameTimes : (app.tickOnce io (choices index) nowMs).tickTimeAt startTimeMs =
          app.tickTimeAt startTimeMs := by
        funext index
        rw [ServerApplication.tickTimeAt, sameConfig, ServerApplication.tickTimeAt]
      rw [List.range'_succ, List.map_cons, Runs.run_cons]
      have rest := ih (index + 1) (app.tickOnce io (choices index) nowMs)
      rw [sameTimes] at rest
      have further : serverStep io app (.tickOnce (choices index) nowMs) =
          app.tickOnce io (choices index) nowMs := rfl
      rw [further, ← rest, ServerApplication.runFrom]
      by_cases running : app.running = true
      · rw [running]
        rfl
      · have stopped : app.running = false := Bool.not_eq_true _ ▸ running
        have idle : ¬ ready app = true := by simp [ready, stopped]
        obtain ⟨same, _⟩ := tick_idle io (choices index) idle nowMs
        rw [same, run_from_stopped io choices startTimeMs left (index + 1) stopped, stopped]
        rfl

/-- What the calls on an application have made of it. -/
structure Serves (config : ServerApplicationConfig) (books : Books Link) : Prop where
  /-- It runs only with a transport and a host. -/
  equipped : books.app.running = true →
    books.app.transport.isSome ∧ books.app.networkHost.isSome
  /-- It counts the ticks of every host it had. -/
  counted : books.app.ticksRun = UInt64.ofNat books.ticks
  /-- Its host has heard the calls since the last start, and nothing before. -/
  served : ∀ host, books.app.networkHost = some host →
    ∃ transport, host = hostRun transport config.network books.calls
  /-- The clock of the host tells how often this host ticked. -/
  clocked : ∀ host, books.app.networkHost = some host →
    host.runtime.simulation.tick = UInt64.ofNat (books.calls.countP isTick) ∧
    host.runtime.simulation.timeMs = UInt64.ofNat (books.calls.countP isTick) * 16
  /-- `RunForTicks` makes so many ticks, at times a tick's duration apart. -/
  loops : ∀ choices tickCount startTimeMs,
    books.app.runForTicks io choices tickCount startTimeMs =
      Runs.run (serverStep io) books.app ((List.range tickCount).map fun index =>
        .tickOnce (choices index)
          (startTimeMs + UInt64.ofNat index * config.tickDurationMs))

theorem application_serves (transport : Option Link) (config : ServerApplicationConfig)
    (calls : List (ServerCall Link)) (own : ∀ call ∈ calls, OwnServerCall call) :
    Serves io config (booksRun io transport config calls) := by
  have kept : Kept config (booksRun io transport config calls) := by
    apply Runs.run_invariant_of_mem (booksStep io) (Kept config) calls
    · exact fun call member books => books_step_kept io call (own call member)
    · refine ⟨rfl, ?_, rfl, by simp, by simp⟩
      intro running
      cases running
  refine ⟨kept.equipped, kept.counted, kept.served, ?_, ?_⟩
  · intro host isHost
    obtain ⟨answers, reached⟩ := kept.served host isHost
    have clocked := host_run_clocked answers config.network _ kept.own
    rw [hostRun, ← reached] at clocked
    refine ⟨clocked.tick, ?_⟩
    rw [clocked.timeMs, clocked.configured]
  · intro choices tickCount startTimeMs
    rw [ServerApplication.runForTicks, run_from_ticks, ← List.range_eq_range']
    unfold ServerApplication.tickTimeAt
    rw [kept.configured]

end Runs

/-! A server that is started twice. -/

/-- A transport that connects, takes everything and brings nothing. -/
def deafTransport : IServerTransport Unit where
  connect link := (true, link)
  update link := link
  state link := (.connected, link)
  send _ link := (true, link)
  poll link := (none, link)
  close link := link

def plainChoice : TickChoice := { polls := 1, order := .stored, hostOrder := .stored }

def restartCalls : List (ServerCall Unit) :=
  [.start, .runForTicks (fun _ => plainChoice) 3 0, .requestStop, .tickOnce plainChoice 48, .start,
    .tickOnce plainChoice 64]

/-- Four ticks are counted, and the host of the second start has made one. -/
theorem application_serves_restarted :
    Serves deafTransport {} (booksRun deafTransport (some ()) {} restartCalls) ∧
    (booksRun deafTransport (some ()) {} restartCalls).ticks = 4 ∧
    (booksRun deafTransport (some ()) {} restartCalls).calls.countP isTick = 1 := by
  refine ⟨application_serves deafTransport (some ()) {} restartCalls ?_, ?_, ?_⟩
  · intro call member
    simp only [restartCalls, List.mem_cons, List.not_mem_nil, or_false] at member
    rcases member with rfl | rfl | rfl | rfl | rfl | rfl <;> trivial
  · decide +kernel
  · decide +kernel

end Brawololo.ServerApplications
