import Brawololo.AreaOfInterest
import Brawololo.ServerRuntime

/-!
The history for lag compensation. Every tick records the snapshot of observer
0, which stands for everyone, in a window of bounded length. A lookup answers
from the window. Client id 0 is not kept from logging in, and once it has a
player the recorded snapshots show only what that player sees.
-/

namespace Brawololo.LagHistory

open GameTypes EntityStore Simulation SimulationSnapshots AreaOfInterest Server

/-! Runs of the runtime. -/

inductive RuntimeCall where
  | connectClient (clientId : ClientId) (clientTimestampMs : TimestampMs)
  | submitInput (packet : ClientInputPacket)
  | tick (order : LoopOrder)
  | buildSnapshotFor (clientId : ClientId) (baselineId : SnapshotId)
  | drainEvents

def runtimeStep (runtime : ServerRuntime) : RuntimeCall → ServerRuntime
  | .connectClient clientId clientTimestampMs =>
      (runtime.connectClient clientId clientTimestampMs).1
  | .submitInput packet => (runtime.submitInput packet).1
  | .tick order => runtime.tick order
  | .buildSnapshotFor clientId baselineId =>
      -- the order in which a snapshot lists its entities does not reach the runtime
      (runtime.buildSnapshotFor .stored clientId baselineId).1
  | .drainEvents => runtime.drainEvents.1

def runtimeRun (config : SimulationConfig) (calls : List RuntimeCall) : ServerRuntime :=
  Runs.run runtimeStep (.new config) calls

/-! What the history is for. -/

/-- The snapshot that a tick takes of the simulation for the history. -/
def tickSnapshot (order : LoopOrder) (runtime : ServerRuntime) : SnapshotDTO :=
  buildSnapshot order (tickFixed order runtime.simulation) 0 runtime.nextHistorySnapshotId 0

/-- The snapshots of the ticks of a run, oldest first. -/
def tickSnapshots : ServerRuntime → List RuntimeCall → List SnapshotDTO
  | _, [] => []
  | runtime, .tick order :: rest =>
      tickSnapshot order runtime :: tickSnapshots (runtimeStep runtime (.tick order)) rest
  | runtime, call :: rest => tickSnapshots (runtimeStep runtime call) rest

/-- The newest snapshot of the history holds every live entity exactly once,
as it is now. -/
def NewestComplete (runtime : ServerRuntime) : Prop :=
  ∃ newest, runtime.history.snapshots.getLast? = some newest ∧
    newest.serverTimeMs = runtime.simulation.timeMs ∧
    Lists runtime.simulation (fun _ => True) newest.entities

/-- The snapshot is the last of the ticks whose time is at most `serverTimeMs`. -/
def IsLastAtOrBefore (ticked : List SnapshotDTO) (serverTimeMs : TimestampMs)
    (snapshot : SnapshotDTO) : Prop :=
  ∃ earlier later, ticked = earlier ++ snapshot :: later ∧
    snapshot.serverTimeMs ≤ serverTimeMs ∧
    ∀ other ∈ later, ¬ other.serverTimeMs ≤ serverTimeMs

/-- From the oldest time that is retained, lookups answer as if every tick were
retained. -/
def LookupExact (ticked : List SnapshotDTO) (runtime : ServerRuntime) : Prop :=
  ∀ oldest, runtime.history.snapshots.head? = some oldest → ∀ serverTimeMs,
    oldest.serverTimeMs ≤ serverTimeMs → serverTimeMs ≤ runtime.simulation.timeMs →
    ∃ found, runtime.historicalSnapshotAtOrBefore serverTimeMs = some found ∧
      IsLastAtOrBefore ticked serverTimeMs found

/-- A tick leaves a complete snapshot behind. -/
def TickComplete (runtime : ServerRuntime) : RuntimeCall → Prop
  | .tick order => NewestComplete (runtime.tick order)
  | _ => True

structure HistoryComplete (config : SimulationConfig) (calls : List RuntimeCall) : Prop where
  ticks : Runs.EveryStep runtimeStep TickComplete (.new config) calls
  lookups : ∀ earlier later, calls = earlier ++ later →
    LookupExact (tickSnapshots (.new config) earlier) (runtimeRun config earlier)

/-! Looking up. -/

section Lookup

variable (serverTimeMs : TimestampMs)

/-- The loop of the lookup, started from a result. -/
def latestFrom (result : Option SnapshotDTO) (snapshots : List SnapshotDTO) :
    Option SnapshotDTO :=
  snapshots.foldl
    (fun result snapshot => if snapshot.serverTimeMs ≤ serverTimeMs then some snapshot else result)
    result

theorem latest_from_cases (result : Option SnapshotDTO) (snapshots : List SnapshotDTO) :
    (∃ found, latestFrom serverTimeMs result snapshots = some found ∧
      IsLastAtOrBefore snapshots serverTimeMs found) ∨
    latestFrom serverTimeMs result snapshots = result ∧
      ∀ snapshot ∈ snapshots, ¬ snapshot.serverTimeMs ≤ serverTimeMs := by
  induction snapshots generalizing result with
  | nil => exact Or.inr ⟨rfl, by simp⟩
  | cons head rest ih =>
      rcases ih (if head.serverTimeMs ≤ serverTimeMs then some head else result) with
        ⟨found, isFound, earlier, later, split, atOrBefore, isLast⟩ | ⟨kept, tooLate⟩
      · refine Or.inl ⟨found, isFound, head :: earlier, later, ?_, atOrBefore, isLast⟩
        rw [split, List.cons_append]
      · have turn : latestFrom serverTimeMs result (head :: rest) = latestFrom serverTimeMs
          (if head.serverTimeMs ≤ serverTimeMs then some head else result) rest := rfl
        rw [kept] at turn
        by_cases inTime : head.serverTimeMs ≤ serverTimeMs
        · rw [if_pos inTime] at turn
          exact Or.inl ⟨head, turn, [], rest, rfl, inTime, tooLate⟩
        · rw [if_neg inTime] at turn
          refine Or.inr ⟨turn, ?_⟩
          intro snapshot member
          rcases List.mem_cons.mp member with rfl | later
          · exact inTime
          · exact tooLate snapshot later

end Lookup

/-- The window is the end of the ticks of the run. -/
structure Windowed (ticked : List SnapshotDTO) (runtime : ServerRuntime) : Prop where
  bound : runtime.history.maxSnapshots = 128
  suffix : ∃ dropped, ticked = dropped ++ runtime.history.snapshots

theorem windowed_lookup {ticked : List SnapshotDTO} {runtime : ServerRuntime}
    (windowed : Windowed ticked runtime) : LookupExact ticked runtime := by
  intro oldest isOldest serverTimeMs atLeast _
  obtain ⟨dropped, split⟩ := windowed.suffix
  have member : oldest ∈ runtime.history.snapshots := List.mem_of_mem_head? isOldest
  rcases latest_from_cases serverTimeMs none runtime.history.snapshots with
    ⟨found, isFound, earlier, later, place, inTime, isLast⟩ | ⟨_, tooLate⟩
  · refine ⟨found, isFound, dropped ++ earlier, later, ?_, inTime, isLast⟩
    rw [split, place, List.append_assoc]
  · exact absurd atLeast (tooLate oldest member)

theorem tick_windowed (order : LoopOrder) {ticked : List SnapshotDTO} {runtime : ServerRuntime}
    (windowed : Windowed ticked runtime) :
    Windowed (ticked ++ [tickSnapshot order runtime]) (runtime.tick order) := by
  obtain ⟨dropped, split⟩ := windowed.suffix
  obtain ⟨dropsNow, pushed⟩ := pushed_suffix runtime.history.maxSnapshots
    runtime.history.snapshots (tickSnapshot order runtime)
  refine ⟨windowed.bound, dropped ++ dropsNow, ?_⟩
  rw [split, List.append_assoc, pushed, ← List.append_assoc]
  rfl

/-- No call but `Tick` touches the history. -/
theorem runtime_step_history (runtime : ServerRuntime) (call : RuntimeCall)
    (notTick : ∀ order, call ≠ .tick order) :
    (runtimeStep runtime call).history = runtime.history := by
  cases call with
  | connectClient clientId clientTimestampMs => rfl
  | submitInput packet => rfl
  | tick order => exact absurd rfl (notTick order)
  | buildSnapshotFor clientId baselineId => rfl
  | drainEvents => rfl

theorem run_windowed (calls : List RuntimeCall) {ticked : List SnapshotDTO}
    {runtime : ServerRuntime} (windowed : Windowed ticked runtime) :
    Windowed (ticked ++ tickSnapshots runtime calls) (Runs.run runtimeStep runtime calls) := by
  induction calls generalizing ticked runtime with
  | nil =>
      rw [tickSnapshots, List.append_nil]
      exact windowed
  | cons call rest ih =>
      by_cases isTick : ∃ order, call = .tick order
      · obtain ⟨order, rfl⟩ := isTick
        have ran := ih (tick_windowed order windowed)
        rw [List.append_assoc] at ran
        exact ran
      · have other : ∀ order, call ≠ .tick order := fun order same => isTick ⟨order, same⟩
        have history := runtime_step_history runtime call other
        have still : Windowed ticked (runtimeStep runtime call) :=
          ⟨by rw [history]; exact windowed.bound, by rw [history]; exact windowed.suffix⟩
        have skipped : tickSnapshots runtime (call :: rest) =
            tickSnapshots (runtimeStep runtime call) rest := by
          cases call with
          | tick order => exact absurd rfl (other order)
          | _ => rfl
        rw [skipped]
        exact ih still

theorem new_windowed (config : SimulationConfig) : Windowed [] (.new config) :=
  ⟨rfl, [], rfl⟩

/-! What a tick records. -/

/-- Client 0 sees the row: it owns it, or has it in its area of interest. -/
def ZeroSees (sim : GameSimulation) (chunk : ChunkCoord) (row : Components) : Prop :=
  row.ownedBy = some { clientId := 0 } ∨
    ∃ place, row.transform = some place ∧ isChunkInAreaOfInterest sim.config.map chunk
      (chunkForPosition sim.config.map place.x place.y) = true

/-- Client id 0 has no player, or the player of client 0 sees every live entity. -/
def EveryoneSeen (sim : GameSimulation) : Prop :=
  ∀ id movement, sim.playerByClient[(0 : ClientId)]? = some id →
    movementForEntity sim id = some movement →
    ∀ entity row, sim.registry.get? entity = some row →
      ZeroSees sim (chunkForPosition sim.config.map movement.x movement.y) row

/-- The simulation that the tick steps to has everyone seen. -/
def TickSeesEveryone (runtime : ServerRuntime) : RuntimeCall → Prop
  | .tick order => EveryoneSeen (tickFixed order runtime.simulation)
  | _ => True

theorem everyone_seen_iff {sim : GameSimulation} (bodied : Bodied sim) :
    EveryoneSeen sim ↔ ∀ entity row, sim.registry.get? entity = some row →
      isVisible sim.config (observerChunk sim 0) 0 row = true := by
  have zero : observerChunk sim 0 = ((sim.playerByClient[(0 : ClientId)]?).bind
      (movementForEntity sim)).map fun movement =>
        chunkForPosition sim.config.map movement.x movement.y := rfl
  cases found : (sim.playerByClient[(0 : ClientId)]?).bind (movementForEntity sim) with
  | none =>
      rw [found] at zero
      rw [zero]
      constructor
      · intro _ entity row _
        rfl
      · intro _ id movement entry isMovement
        rw [entry, Option.bind_some, isMovement] at found
        cases found
  | some movement =>
      obtain ⟨id, entry, isMovement⟩ := Option.bind_eq_some_iff.mp found
      rw [found] at zero
      rw [zero, Option.map_some]
      have visible (entity : Entity) (row : Components)
          (present : sim.registry.get? entity = some row) :
          isVisible sim.config (some (chunkForPosition sim.config.map movement.x movement.y)) 0 row
            = true ↔ ZeroSees sim (chunkForPosition sim.config.map movement.x movement.y) row := by
        obtain ⟨place, isPlace⟩ := Option.isSome_iff_exists.mp (bodied entity row present).2.1
        unfold isVisible ZeroSees
        rw [isPlace, Bool.or_eq_true, row_owned_iff]
        simp
      constructor
      · intro seen entity row present
        exact (visible entity row present).mpr
          (seen id movement entry isMovement entity row present)
      · intro seen other otherMovement otherEntry isOther entity row present
        rw [entry] at otherEntry
        cases otherEntry
        rw [isMovement] at isOther
        cases isOther
        exact (visible entity row present).mp (seen entity row present)

/-- Listing the rows of a part is listing all exactly when the part is all. -/
theorem lists_everyone_iff {sim : GameSimulation} {seen : Components → Prop}
    {states : List EntityStateDTO} (lists : Lists sim seen states) :
    Lists sim (fun _ => True) states ↔
      ∀ entity row, sim.registry.get? entity = some row → seen row := by
  obtain ⟨listed, distinct, exact, shows⟩ := lists
  constructor
  · rintro ⟨everyone, _, all, shown⟩ entity row present
    have sameLength := shows.length_eq.trans shown.length_eq.symm
    have within : listed ⊆ everyone := by
      intro other member
      obtain ⟨otherRow, found, _⟩ := (exact other).mp member
      exact (all other).mpr ⟨otherRow, found, trivial⟩
    have perm := (List.subperm_of_subset distinct within).perm_of_length_le sameLength.symm.le
    have member := perm.mem_iff.mpr ((all entity).mpr ⟨row, present, trivial⟩)
    obtain ⟨found, isRow, passes⟩ := (exact entity).mp member
    rw [present] at isRow
    cases isRow
    exact passes
  · intro every
    refine ⟨listed, distinct, ?_, shows⟩
    intro entity
    rw [exact]
    constructor
    · rintro ⟨row, present, _⟩
      exact ⟨row, present, trivial⟩
    · rintro ⟨row, present, _⟩
      exact ⟨row, present, every entity row present⟩

/-- What is kept along runs of the runtime. -/
structure Recording (runtime : ServerRuntime) : Prop where
  bound : runtime.history.maxSnapshots = 128
  bodied : Bodied runtime.simulation

theorem new_recording (config : SimulationConfig) : Recording (.new config) := by
  refine ⟨rfl, ?_⟩
  intro entity row present
  rw [ServerRuntime.new, Registry.get?_empty] at present
  cases present

theorem runtime_step_recording (runtime : ServerRuntime) (call : RuntimeCall)
    (recording : Recording runtime) : Recording (runtimeStep runtime call) := by
  cases call with
  | connectClient clientId clientTimestampMs =>
      exact ⟨recording.bound, submit_login_bodied _ _ recording.bodied⟩
  | submitInput packet => exact ⟨recording.bound, submit_input_bodied _ packet recording.bodied⟩
  | tick order => exact ⟨recording.bound, tick_bodied order _ recording.bodied⟩
  | buildSnapshotFor clientId baselineId => exact ⟨recording.bound, recording.bodied⟩
  | drainEvents => exact ⟨recording.bound, recording.bodied⟩

theorem tick_newest (order : LoopOrder) (runtime : ServerRuntime)
    (bound : runtime.history.maxSnapshots = 128) :
    (runtime.tick order).history.snapshots.getLast? = some (tickSnapshot order runtime) := by
  change (pushBounded runtime.history.maxSnapshots runtime.history.snapshots
    (tickSnapshot order runtime)).getLast? = _
  rw [pushBounded, bound, List.getLast?_drop, List.getLast?_concat, if_neg]
  rw [List.length_append, List.length_singleton]
  omega

/-- A tick leaves a complete snapshot exactly when everyone is seen. -/
theorem tick_complete_iff (runtime : ServerRuntime) (call : RuntimeCall)
    (recording : Recording runtime) :
    TickComplete runtime call ↔ TickSeesEveryone runtime call := by
  cases call with
  | tick order =>
      have bodied := tick_bodied order _ recording.bodied
      have lists := build_snapshot_lists order _ bodied 0 runtime.nextHistorySnapshotId 0
      have everyone := lists_everyone_iff lists
      have newest := tick_newest order runtime recording.bound
      change NewestComplete (runtime.tick order) ↔ EveryoneSeen (tickFixed order runtime.simulation)
      rw [everyone_seen_iff bodied, ← everyone]
      constructor
      · rintro ⟨snapshot, isNewest, _, complete⟩
        rw [newest] at isNewest
        cases isNewest
        exact complete
      · intro complete
        exact ⟨_, newest, rfl, complete⟩
  | connectClient clientId clientTimestampMs => exact Iff.rfl
  | submitInput packet => exact Iff.rfl
  | buildSnapshotFor clientId baselineId => exact Iff.rfl
  | drainEvents => exact Iff.rfl

/-- The history is complete along a run exactly when every tick has everyone
seen: there is no player of client 0, or it sees all there is. -/
theorem lag_history_complete (config : SimulationConfig) (calls : List RuntimeCall) :
    HistoryComplete config calls ↔
      Runs.EveryStep runtimeStep TickSeesEveryone (.new config) calls := by
  have ticks := Runs.every_step_iff runtimeStep Recording TickComplete TickSeesEveryone
    runtime_step_recording tick_complete_iff (.new config) (new_recording config) calls
  constructor
  · intro complete
    exact ticks.mp complete.ticks
  · intro seen
    refine ⟨ticks.mpr seen, ?_⟩
    intro earlier later _
    exact windowed_lookup (run_windowed earlier (new_windowed config))

/-- Clients 0 and 14 connect far apart, and the server ticks once. -/
def zeroConnects : List RuntimeCall :=
  [.connectClient 0 0, .connectClient 14 0, .tick .stored]

def zeroMovement : MovementStateDTO where
  entityId := { value := 1 }
  x := (spawnTransformForClient {} 0).x
  y := (spawnTransformForClient {} 0).y

def farPlace : TransformComponent := spawnTransformForClient {} 14

/-- The player of client 14 is missing from what the tick recorded. -/
theorem lag_history_incomplete : ¬ HistoryComplete {} zeroConnects := by
  intro complete
  have seen := (Runs.every_step_iff runtimeStep Recording TickComplete TickSeesEveryone
    runtime_step_recording tick_complete_iff (.new {}) (new_recording {}) zeroConnects).mp
    complete.ticks
  have far := seen.2.2.1 { value := 1 } zeroMovement (by decide +kernel) (by decide +kernel) 1
    (playerRow {} { value := 2 } 14 farPlace.x farPlace.y) (by decide +kernel)
  rcases far with owned | ⟨place, isPlace, near⟩
  · cases owned
  · cases isPlace
    exact absurd near (by decide +kernel)

end Brawololo.LagHistory
