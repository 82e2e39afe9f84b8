import Brawololo.ClientViewFrames
import Brawololo.RemoteClientSession

/-!
The application of a client: a runtime that predicts, and a session that carries
its inputs to a server and brings the snapshots back. The session is one of
several; here it is anything with the calls of an `IClientSession`.
-/

namespace Brawololo.Client

open GameTypes Simulation PollLoops

universe u v

/-- The calls of a session. `Choice` is what a call may depend on besides its
arguments: the order of loops over hash maps, how often a transport is polled. -/
structure IClientSession (Session : Type u) (Choice : Type v) where
  connect : ClientId → TimestampMs → Session → Bool × Session
  sendInput : ClientInputPacket → Session → Session
  tick : Choice → TimestampMs → Session → Session
  pump : Choice → Session → ClientRuntime → Session × ClientRuntime
  drainEvents : Session → EventList × Session
  stats : Session → ClientSessionStats

structure ClientApplicationConfig where
  localClientId : ClientId := 1
  deriving DecidableEq

structure ClientApplication (Session : Type u) where
  config : ClientApplicationConfig := {}
  /-- Empty when the application was made without a session. -/
  session : Option Session
  runtime : ClientRuntime
  fixedTick : Tick := 0

namespace ClientRuntime

/-- What `ConnectLocal` returns. -/
def acceptsLocal (runtime : ClientRuntime) (localTimeMs : TimestampMs) : Bool :=
  (submitLogin runtime.simulation
    { header := { clientId := runtime.localClientId, sequence := 0,
                  clientTimestampMs := localTimeMs } }).2

/-- What `QueueInput` returns. -/
def queuedPacket (runtime : ClientRuntime) (input : InputFrame) (localTimeMs : TimestampMs) :
    ClientInputPacket :=
  { header := { clientId := runtime.localClientId, sequence := runtime.nextSequence,
                clientTimestampMs := localTimeMs }
    input := input }

theorem queue_input_records (runtime : ClientRuntime) (input : InputFrame)
    (localTimeMs : TimestampMs) :
    (runtime.queueInput input localTimeMs).pendingInputs.unackedInputs =
      runtime.pendingInputs.unackedInputs ++ [runtime.queuedPacket input localTimeMs] := rfl

end ClientRuntime

namespace ClientApplication

variable {Session : Type u} {Choice : Type v} (calls : IClientSession Session Choice)

def new (session : Option Session) (config : ClientApplicationConfig) :
    ClientApplication Session :=
  { config := config, session := session, runtime := .new config.localClientId {} }

def connect (app : ClientApplication Session) (nowMs : TimestampMs) :
    Bool × ClientApplication Session :=
  match app.session with
  | none => (false, app)
  | some session =>
      let connected := calls.connect app.config.localClientId nowMs session
      (app.runtime.acceptsLocal nowMs && connected.1,
        { app with
          runtime := app.runtime.connectLocal nowMs
          session := some connected.2 })

def submitInput (app : ClientApplication Session) (input : InputFrame) (nowMs : TimestampMs) :
    ClientInputPacket × ClientApplication Session :=
  let packet := app.runtime.queuedPacket input nowMs
  (packet,
    { app with
      runtime := app.runtime.queueInput input nowMs
      session := app.session.map (calls.sendInput packet) })

def tickFixed (order : LoopOrder) (choice : Choice) (app : ClientApplication Session)
    (nowMs : TimestampMs) : ClientApplication Session :=
  let ticked := app.runtime.tickSimulation order
  match app.session with
  | none => { app with runtime := ticked, fixedTick := app.fixedTick + 1 }
  | some session =>
      let pumped := calls.pump choice (calls.tick choice nowMs session) ticked
      { app with
        runtime := pumped.2
        session := some pumped.1
        fixedTick := app.fixedTick + 1 }

def drainEvents (app : ClientApplication Session) : EventList × ClientApplication Session :=
  let drained := app.runtime.drainEvents
  match app.session with
  | none => (drained.2, { app with runtime := drained.1 })
  | some session =>
      let sessionDrained := calls.drainEvents session
      (drained.2 ++ sessionDrained.1,
        { app with runtime := drained.1, session := some sessionDrained.2 })

def stats (app : ClientApplication Session) : ClientApplicationStats where
  fixedTick := app.fixedTick
  entityCount := app.runtime.simulation.entityByNetworkId.size
  unackedInputCount := app.runtime.pendingInputs.unackedInputs.length
  session := (app.session.map calls.stats).getD {}

end ClientApplication

/-- The calls on an application. -/
inductive ApplicationCall (Choice : Type v) where
  | connect (nowMs : TimestampMs)
  | submitInput (input : InputFrame) (nowMs : TimestampMs)
  | tickFixed (order : LoopOrder) (choice : Choice) (nowMs : TimestampMs)
  | drainEvents

def applicationStep {Session : Type u} {Choice : Type v} (calls : IClientSession Session Choice)
    (app : ClientApplication Session) : ApplicationCall Choice → ClientApplication Session
  | .connect nowMs => (app.connect calls nowMs).2
  | .submitInput input nowMs => (app.submitInput calls input nowMs).2
  | .tickFixed order choice nowMs => app.tickFixed calls order choice nowMs
  | .drainEvents => (app.drainEvents calls).2

/-! A remote session. -/

/-- How often the transport is polled at most, and the order of the loops while
a snapshot is applied. -/
structure PumpChoice where
  polls : Nat := 0
  order : PumpState → LoopOrder := fun _ => .stored

def remoteSession {Link : Type u} (io : ITransport Link) :
    IClientSession (RemoteClientSession Link) PumpChoice where
  connect localClientId nowMs session :=
    ((session.connect io localClientId nowMs).2, (session.connect io localClientId nowMs).1)
  sendInput packet session := session.sendInput io packet
  tick _ nowMs session := session.tick io nowMs
  pump choice session runtime := session.pump io choice.polls choice.order runtime
  drainEvents session := (session.drainEvents.2, session.drainEvents.1)
  stats session := session.stats

end Brawololo.Client
