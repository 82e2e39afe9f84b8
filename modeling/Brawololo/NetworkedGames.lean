import Brawololo.HubTransports

/-!
A game over the hub: the host of the server, and the applications of its clients
with their remote sessions. In a run the server and the clients are called in
any order, and each of them sees of the others what the hub brings.
-/

namespace Brawololo.NetworkedGames

open GameTypes Simulation Client Server LoopbackHub HostTransports HubTransports SessionExchanges

abbrev RemoteApplication := ClientApplication (RemoteClientSession HubRecord)

/-- The client of every id; a run calls those of them it has. Beside the parties
what `SubmitInput` returned to its callers, which of it after the login was sent,
and what the ticks of the server took from the queue of its simulation, each
oldest first. -/
structure NetworkedGame where
  record : HubRecord := {}
  serverHost : ServerNetworkHost
  clients : ClientId → RemoteApplication
  submitted : List ClientInputPacket := []
  afterLogin : List ClientInputPacket := []
  consumed : List ClientInputPacket := []

inductive GameCall where
  | pumpClientMessages (polls : Nat)
  | tickAndSendSnapshots (order : LoopOrder) (hostOrder : HostOrder) (nowMs : TimestampMs)
  | drainEvents
  | client (clientId : ClientId) (call : ApplicationCall PumpChoice)

/-- `MakeRemoteSession`. -/
def makeRemoteSession : RemoteClientSession HubRecord :=
  { transport := some {} }

def startClient (clientId : ClientId) : RemoteApplication :=
  .new (some makeRemoteSession) { localClientId := clientId }

/-- The endpoint of the session refers to the hub as it is now. -/
def atHub (record : HubRecord) (app : RemoteApplication) : RemoteApplication :=
  { app with
    session := app.session.map fun session => { session with transport := some record } }

/-- The hub after a call of the application. -/
def hubOf (record : HubRecord) (app : RemoteApplication) : HubRecord :=
  (app.session.bind fun session => session.transport).getD record

/-- What a call of `SubmitInput` returns, and nothing for the other calls. -/
def returned (app : RemoteApplication) : ApplicationCall PumpChoice → List ClientInputPacket
  | .submitInput input nowMs => [app.runtime.queuedPacket input nowMs]
  | _ => []

def loginSent (app : RemoteApplication) : Bool :=
  (app.session.map fun session => session.loginSent).getD false

/-- Of it what is returned once the login is sent. -/
def returnedAfterLogin (app : RemoteApplication) (call : ApplicationCall PumpChoice) :
    List ClientInputPacket :=
  if loginSent app then returned app call else []

namespace NetworkedGame

def start (config : ServerNetworkHostConfig) : NetworkedGame where
  serverHost := .new config
  clients := startClient

def hosted (game : NetworkedGame) : Hosted HubRecord :=
  { link := game.record, host := game.serverHost }

def withHosted (game : NetworkedGame) (hosted : Hosted HubRecord) : NetworkedGame :=
  { game with record := hosted.link, serverHost := hosted.host }

def callClient (game : NetworkedGame) (clientId : ClientId) (call : ApplicationCall PumpChoice) :
    NetworkedGame :=
  let called := applicationStep (remoteSession (hubTransport (.client clientId)))
    (atHub game.record (game.clients clientId)) call
  { game with
    record := hubOf game.record called
    clients := Function.update game.clients clientId called
    submitted := game.submitted ++ returned (game.clients clientId) call
    afterLogin := game.afterLogin ++ returnedAfterLogin (game.clients clientId) call }

end NetworkedGame

def gameStep (game : NetworkedGame) : GameCall → NetworkedGame
  | .pumpClientMessages polls =>
      game.withHosted (game.hosted.pumpClientMessages (hubTransport .server) polls)
  | .tickAndSendSnapshots order hostOrder nowMs =>
      { game.withHosted (game.hosted.tickAndSendSnapshots (hubTransport .server) order hostOrder
          nowMs) with
        consumed := game.consumed ++ game.serverHost.runtime.simulation.pendingInputs }
  | .drainEvents => game.withHosted (game.hosted.call (hubTransport .server) .drainEvents)
  | .client clientId call => game.callClient clientId call

def gameRun (config : ServerNetworkHostConfig) (calls : List GameCall) : NetworkedGame :=
  Runs.run gameStep (.start config) calls

end Brawololo.NetworkedGames
