import Brawololo.SimulationSnapshots
import Brawololo.Runs

/-!
The runtime of a client: its simulation, its unacknowledged inputs, the
snapshots it keeps for interpolation, and its estimate of the server clock.
-/

namespace Brawololo.Client

open GameTypes EntityStore Simulation Simulation.GameSimulation SimulationSnapshots

/-! Pending inputs. -/

structure PendingInputHistory where
  unackedInputs : List ClientInputPacket := []
  deriving DecidableEq

namespace PendingInputHistory

def record (history : PendingInputHistory) (packet : ClientInputPacket) : PendingInputHistory :=
  { unackedInputs := history.unackedInputs ++ [packet] }

def acknowledgeThrough (history : PendingInputHistory) (sequence : CommandSequence) :
    PendingInputHistory :=
  { unackedInputs := history.unackedInputs.filter fun packet => sequence < packet.header.sequence }

end PendingInputHistory

/-! Interpolation. -/

structure InterpolationBuffer where
  snapshots : List SnapshotDTO := []
  maxSnapshots : Nat := 32
  deriving DecidableEq

def InterpolationBuffer.push (buffer : InterpolationBuffer) (snapshot : SnapshotDTO) :
    InterpolationBuffer :=
  { buffer with snapshots := pushBounded buffer.maxSnapshots buffer.snapshots snapshot }

structure PresentationInterpolationConfig where
  interpolationDelayMs : TimestampMs := 100
  maxSnapshots : Nat := 32
  deriving DecidableEq

structure PresentationInterpolator where
  config : PresentationInterpolationConfig := {}
  snapshots : List SnapshotDTO := []
  deriving DecidableEq

def PresentationInterpolator.pushSnapshot (interpolator : PresentationInterpolator)
    (snapshot : SnapshotDTO) : PresentationInterpolator :=
  { interpolator with
    snapshots := pushBounded interpolator.config.maxSnapshots interpolator.snapshots snapshot }

/-! The clock. -/

structure NetworkClock where
  serverOffsetMs : Int64 := 0
  rttMs : TimestampMs := 0
  interpolationDelayMs : TimestampMs := 100
  hasSample : Bool := false
  deriving DecidableEq

def clampDelay (delayMs : TimestampMs) : TimestampMs :=
  if delayMs < 50 then 50 else if 250 < delayMs then 250 else delayMs

def NetworkClock.recordSample (clock : NetworkClock) (sample : TimeSyncSample) : NetworkClock :=
  let measuredRtt : TimestampMs :=
    if sample.clientSentAtMs ≤ sample.clientReceivedAtMs then
      sample.clientReceivedAtMs - sample.clientSentAtMs
    else 0
  let clientMidpoint := sample.clientSentAtMs + measuredRtt / 2
  let measuredOffset := sample.serverReceivedAtMs.toInt64 - clientMidpoint.toInt64
  let rttMs := if clock.hasSample then (clock.rttMs * 7 + measuredRtt) / 8 else measuredRtt
  { serverOffsetMs :=
      if clock.hasSample then (clock.serverOffsetMs * 7 + measuredOffset) / 8 else measuredOffset
    rttMs := rttMs
    interpolationDelayMs := clampDelay (rttMs / 2 + 50)
    hasSample := true }

/-! The runtime. -/

structure ClientRuntime where
  localClientId : ClientId
  nextSequence : CommandSequence := 1
  simulation : GameSimulation
  clock : NetworkClock := {}
  pendingInputs : PendingInputHistory := {}
  interpolation : InterpolationBuffer := {}
  presentationInterpolator : PresentationInterpolator := {}

namespace ClientRuntime

def new (localClientId : ClientId) (config : SimulationConfig) : ClientRuntime :=
  { localClientId := localClientId
    simulation := { config := { config with mode := .clientPrediction } } }

def connectLocal (runtime : ClientRuntime) (localTimeMs : TimestampMs) : ClientRuntime :=
  let login : LoginCommand :=
    { header := { clientId := runtime.localClientId, sequence := 0,
                  clientTimestampMs := localTimeMs } }
  { runtime with simulation := (submitLogin runtime.simulation login).1 }

def queueInput (runtime : ClientRuntime) (input : InputFrame) (localTimeMs : TimestampMs) :
    ClientRuntime :=
  let packet : ClientInputPacket :=
    { header := { clientId := runtime.localClientId, sequence := runtime.nextSequence,
                  clientTimestampMs := localTimeMs }
      input := input }
  { runtime with
    nextSequence := runtime.nextSequence + 1
    pendingInputs := runtime.pendingInputs.record packet
    simulation := (submitInput runtime.simulation packet).1 }

def tickSimulation (order : LoopOrder) (runtime : ClientRuntime) : ClientRuntime :=
  { runtime with simulation := tickFixed order runtime.simulation }

def applyServerSnapshot (order : LoopOrder) (runtime : ClientRuntime) (snapshot : SnapshotDTO) :
    ClientRuntime :=
  let applied := applySnapshot order runtime.simulation snapshot runtime.localClientId
  let pendingInputs := runtime.pendingInputs.acknowledgeThrough snapshot.ackedInputSequence
  { runtime with
    interpolation := runtime.interpolation.push snapshot
    presentationInterpolator := runtime.presentationInterpolator.pushSnapshot snapshot
    pendingInputs := pendingInputs
    simulation := replayLocalInputsForPrediction applied pendingInputs.unackedInputs }

def recordTimeSyncSample (runtime : ClientRuntime) (sample : TimeSyncSample) : ClientRuntime :=
  { runtime with clock := runtime.clock.recordSample sample }

def drainEvents (runtime : ClientRuntime) : ClientRuntime × EventList :=
  let (simulation, events) := runtime.simulation.drainEvents
  ({ runtime with simulation := simulation }, events)

end ClientRuntime

/-- The calls on a runtime. -/
inductive ClientCall where
  | connectLocal (localTimeMs : TimestampMs)
  | queueInput (input : InputFrame) (localTimeMs : TimestampMs)
  | tickSimulation (order : LoopOrder)
  | applyServerSnapshot (order : LoopOrder) (snapshot : SnapshotDTO)
  | recordTimeSyncSample (sample : TimeSyncSample)
  | drainEvents

def clientStep (runtime : ClientRuntime) : ClientCall → ClientRuntime
  | .connectLocal localTimeMs => runtime.connectLocal localTimeMs
  | .queueInput input localTimeMs => runtime.queueInput input localTimeMs
  | .tickSimulation order => runtime.tickSimulation order
  | .applyServerSnapshot order snapshot => runtime.applyServerSnapshot order snapshot
  | .recordTimeSyncSample sample => runtime.recordTimeSyncSample sample
  | .drainEvents => runtime.drainEvents.1

def clientRun (localClientId : ClientId) (config : SimulationConfig) (calls : List ClientCall) :
    ClientRuntime :=
  Runs.run clientStep (.new localClientId config) calls

end Brawololo.Client
