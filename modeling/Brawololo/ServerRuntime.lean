import Brawololo.SimulationSnapshots
import Brawololo.NetworkEvents
import Brawololo.Replication

/-!
The runtime of the server, which owns the simulation and numbers the snapshots
it builds, and what the server keeps for each client it replicates to.
-/

namespace Brawololo.Server

open GameTypes EntityStore NetworkEvents Simulation Simulation.GameSimulation SimulationSnapshots
open Replication

/-! The runtime. -/

structure LagCompensationHistory where
  maxSnapshots : Nat := 128
  snapshots : List SnapshotDTO := []
  deriving DecidableEq

def LagCompensationHistory.record (history : LagCompensationHistory) (snapshot : SnapshotDTO) :
    LagCompensationHistory :=
  { history with snapshots := pushBounded history.maxSnapshots history.snapshots snapshot }

def LagCompensationHistory.closestAtOrBefore (history : LagCompensationHistory)
    (serverTimeMs : TimestampMs) : Option SnapshotDTO :=
  history.snapshots.foldl
    (fun result snapshot => if snapshot.serverTimeMs ≤ serverTimeMs then some snapshot else result)
    none

structure ServerRuntime where
  simulation : GameSimulation := {}
  history : LagCompensationHistory := {}
  nextSnapshotId : SnapshotId := 1
  nextHistorySnapshotId : SnapshotId := 1

namespace ServerRuntime

def new (config : SimulationConfig) : ServerRuntime :=
  { simulation := { config := { config with mode := .serverAuthoritative } } }

def connectClient (runtime : ServerRuntime) (clientId : ClientId)
    (clientTimestampMs : TimestampMs) : ServerRuntime × Bool :=
  let login : LoginCommand :=
    { header := { clientId := clientId, sequence := 0, clientTimestampMs := clientTimestampMs } }
  let (simulation, accepted) := submitLogin runtime.simulation login
  ({ runtime with simulation := simulation }, accepted)

def submitInput (runtime : ServerRuntime) (packet : ClientInputPacket) : ServerRuntime × Bool :=
  let (simulation, accepted) := Simulation.submitInput runtime.simulation packet
  ({ runtime with simulation := simulation }, accepted)

def tick (order : LoopOrder) (runtime : ServerRuntime) : ServerRuntime :=
  let simulation := tickFixed order runtime.simulation
  { runtime with
    simulation := simulation
    history := runtime.history.record
      (buildSnapshot order simulation 0 runtime.nextHistorySnapshotId 0)
    nextHistorySnapshotId := runtime.nextHistorySnapshotId + 1 }

def buildSnapshotFor (order : LoopOrder) (runtime : ServerRuntime) (clientId : ClientId)
    (baselineId : SnapshotId) : ServerRuntime × SnapshotDTO :=
  ({ runtime with nextSnapshotId := runtime.nextSnapshotId + 1 },
   buildSnapshot order runtime.simulation clientId runtime.nextSnapshotId baselineId)

def historicalSnapshotAtOrBefore (runtime : ServerRuntime) (serverTimeMs : TimestampMs) :
    Option SnapshotDTO :=
  runtime.history.closestAtOrBefore serverTimeMs

def drainEvents (runtime : ServerRuntime) : ServerRuntime × EventList :=
  let (simulation, events) := runtime.simulation.drainEvents
  ({ runtime with simulation := simulation }, events)

end ServerRuntime

/-! The state of one client. -/

structure PendingReliableEvent where
  event : NetworkEventDTO := {}
  firstSentAtMs : TimestampMs := 0
  lastSentAtMs : TimestampMs := 0
  sendCount : UInt32 := 0
  deriving DecidableEq

structure ServerClientReplicationState where
  clientId : ClientId := 0
  ackedSnapshot : SnapshotId := 0
  nextSnapshotSendAtMs : TimestampMs := 0
  interest : InterestTracker := {}
  pendingReliableEvents : UnorderedMap NetworkEventId PendingReliableEvent := {}

namespace ServerClientReplicationState

def acknowledgeSnapshot (state : ServerClientReplicationState) (snapshotId : SnapshotId) :
    ServerClientReplicationState × Bool :=
  if snapshotId ≤ state.ackedSnapshot then (state, false)
  else ({ state with ackedSnapshot := snapshotId }, true)

def shouldSendSnapshot (state : ServerClientReplicationState) (nowMs : TimestampMs) : Bool :=
  state.nextSnapshotSendAtMs ≤ nowMs

def markSnapshotSent (state : ServerClientReplicationState) (nowMs intervalMs : TimestampMs) :
    ServerClientReplicationState :=
  { state with nextSnapshotSendAtMs := nowMs + intervalMs }

/-- The entry of a sent event; an entry that was never sent takes the event. -/
def trackedEntry (event : NetworkEventDTO) (nowMs : TimestampMs)
    (pending : PendingReliableEvent) : PendingReliableEvent :=
  let entered :=
    if pending.sendCount = 0 then { pending with firstSentAtMs := nowMs, event := event }
    else pending
  { entered with lastSentAtMs := nowMs, sendCount := entered.sendCount + 1 }

def trackReliableEvent (state : ServerClientReplicationState) (event : NetworkEventDTO)
    (nowMs : TimestampMs) : ServerClientReplicationState :=
  let pending := (state.pendingReliableEvents[event.eventId]?).getD {}
  { state with
    pendingReliableEvents :=
      state.pendingReliableEvents.insert event.eventId (trackedEntry event nowMs pending) }

def acknowledgeReliableEvent (state : ServerClientReplicationState) (eventId : NetworkEventId) :
    ServerClientReplicationState × Bool :=
  ({ state with pendingReliableEvents := state.pendingReliableEvents.erase eventId },
   state.pendingReliableEvents.contains eventId)

def resendDelayMs (baseIntervalMs : TimestampMs) (pending : PendingReliableEvent) : TimestampMs :=
  let backoffShift := min (if 0 < pending.sendCount then pending.sendCount - 1 else 0) 4
  baseIntervalMs <<< backoffShift.toUInt64

/-- The send cap is not reached; a cap of 0 is none. -/
def belowCap (maxSendCount : UInt32) (pending : PendingReliableEvent) : Bool :=
  !(maxSendCount ≠ 0 && maxSendCount ≤ pending.sendCount)

def dueForResend (nowMs baseIntervalMs : TimestampMs) (maxSendCount : UInt32)
    (pending : PendingReliableEvent) : Bool :=
  belowCap maxSendCount pending &&
    pending.lastSentAtMs + resendDelayMs baseIntervalMs pending ≤ nowMs

def reliableEventsDueForResend {Site : Type} (state : ServerClientReplicationState)
    (order : IterationOrder Site) (site : Site) (nowMs baseIntervalMs : TimestampMs)
    (maxSendCount : UInt32) : List NetworkEventDTO :=
  ((order.arrange site state.pendingReliableEvents.toList).filter fun entry =>
    dueForResend nowMs baseIntervalMs maxSendCount entry.2).map fun entry => entry.2.event

end ServerClientReplicationState

end Brawololo.Server
