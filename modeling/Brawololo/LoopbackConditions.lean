import Brawololo.DelayLines
import Brawololo.KcpRtcTransport

/-!
The loopback transport of a pair, whose conditions drop or delay every n-th
envelope. Each direction of the pair is a line with delayed items: over any
calls of the two endpoints nothing is lost but what a condition dropped.
-/

namespace Brawololo.LoopbackConditions

open NetworkProtocol DelayLines PollLoops
open KcpRtc (TransportState TransportError)

structure LoopbackNetworkConditions where
  dropEveryNthOutgoingEnvelope : UInt32 := 0
  delayEveryNthOutgoingEnvelope : UInt32 := 0
  deriving DecidableEq

/-- With the counters that only this transport counts. -/
structure LoopbackStats extends KcpRtc.TransportStats where
  envelopesDroppedByCondition : Nat := 0
  envelopesDelayedByCondition : Nat := 0
  deriving DecidableEq

inductive Endpoint where
  | a
  | b
  deriving DecidableEq

def Endpoint.other : Endpoint → Endpoint
  | .a => .b
  | .b => .a

/-! The shared state, by the endpoint that a queue leaves from. -/

structure SharedState where
  aToB : List NetworkEnvelope := []
  bToA : List NetworkEnvelope := []
  delayedAToB : List NetworkEnvelope := []
  delayedBToA : List NetworkEnvelope := []
  deriving DecidableEq

namespace SharedState

def outgoing (state : SharedState) : Endpoint → List NetworkEnvelope
  | .a => state.aToB
  | .b => state.bToA

def delayed (state : SharedState) : Endpoint → List NetworkEnvelope
  | .a => state.delayedAToB
  | .b => state.delayedBToA

def setOutgoing (state : SharedState) (queue : List NetworkEnvelope) : Endpoint → SharedState
  | .a => { state with aToB := queue }
  | .b => { state with bToA := queue }

def setDelayed (state : SharedState) (queue : List NetworkEnvelope) : Endpoint → SharedState
  | .a => { state with delayedAToB := queue }
  | .b => { state with delayedBToA := queue }

section Queues

variable (state : SharedState) (queue : List NetworkEnvelope) (endpoint other : Endpoint)

@[simp] theorem outgoing_set_outgoing : (state.setOutgoing queue endpoint).outgoing other =
    if other = endpoint then queue else state.outgoing other := by
  cases endpoint <;> cases other <;> rfl

@[simp] theorem delayed_set_outgoing :
    (state.setOutgoing queue endpoint).delayed other = state.delayed other := by
  cases endpoint <;> cases other <;> rfl

@[simp] theorem outgoing_set_delayed :
    (state.setDelayed queue endpoint).outgoing other = state.outgoing other := by
  cases endpoint <;> cases other <;> rfl

@[simp] theorem delayed_set_delayed : (state.setDelayed queue endpoint).delayed other =
    if other = endpoint then queue else state.delayed other := by
  cases endpoint <;> cases other <;> rfl

end Queues

end SharedState

@[simp] theorem other_ne (endpoint : Endpoint) : endpoint.other ≠ endpoint := by
  cases endpoint <;> exact nofun

@[simp] theorem other_other (endpoint : Endpoint) : endpoint.other.other = endpoint := by
  cases endpoint <;> rfl

/-! The transport. -/

/-- An endpoint holds what it shares as it is when it is called. Only a transport
that was made by itself shares nothing. -/
structure LoopbackTransport where
  hasState : Bool := false
  state : SharedState := {}
  endpoint : Endpoint := .a
  conditions : LoopbackNetworkConditions := {}
  outgoingEnvelopeOrdinal : UInt32 := 0
  stateValue : TransportState := .disconnected
  stats : LoopbackStats := {}
  lastError : TransportError := .none
  deriving DecidableEq

namespace LoopbackTransport

def incomingQueue (transport : LoopbackTransport) : List NetworkEnvelope :=
  transport.state.outgoing transport.endpoint.other

def outgoingQueue (transport : LoopbackTransport) : List NetworkEnvelope :=
  transport.state.outgoing transport.endpoint

def delayedOutgoingQueue (transport : LoopbackTransport) : List NetworkEnvelope :=
  transport.state.delayed transport.endpoint

def shouldDropOutgoing (transport : LoopbackTransport) : Bool :=
  transport.conditions.dropEveryNthOutgoingEnvelope ≠ 0 &&
    transport.outgoingEnvelopeOrdinal % transport.conditions.dropEveryNthOutgoingEnvelope = 0

def shouldDelayOutgoing (transport : LoopbackTransport) : Bool :=
  transport.conditions.delayEveryNthOutgoingEnvelope ≠ 0 &&
    transport.outgoingEnvelopeOrdinal % transport.conditions.delayEveryNthOutgoingEnvelope = 0

def pushOutgoing (transport : LoopbackTransport) (envelope : NetworkEnvelope) :
    LoopbackTransport :=
  { transport with
    stats := { transport.stats with
      bytesSent := transport.stats.bytesSent + envelope.payload.length
      envelopesSent := transport.stats.envelopesSent + 1 }
    state := transport.state.setOutgoing (transport.outgoingQueue ++ [envelope])
      transport.endpoint }

def pushDelayed (transport : LoopbackTransport) (envelope : NetworkEnvelope) :
    LoopbackTransport :=
  { transport with
    stats := { transport.stats with
      envelopesDelayedByCondition := transport.stats.envelopesDelayedByCondition + 1 }
    state := transport.state.setDelayed (transport.delayedOutgoingQueue ++ [envelope])
      transport.endpoint }

def releaseOneDelayed (transport : LoopbackTransport) : LoopbackTransport :=
  if !transport.hasState then transport
  else
    match transport.delayedOutgoingQueue with
    | [] => transport
    | delayed :: rest =>
        { transport with
          state := transport.state.setDelayed rest transport.endpoint }.pushOutgoing delayed

/-- Each turn of the loop releases one, so it ends. -/
def flushDelayed (transport : LoopbackTransport) : LoopbackTransport :=
  if !transport.hasState then transport
  else
    whileSome (fun transport => (transport.delayedOutgoingQueue.head?, transport))
      (fun transport _ => transport.releaseOneDelayed)
      (transport.delayedOutgoingQueue.length + 1) transport

def setNetworkConditions (transport : LoopbackTransport) (conditions : LoopbackNetworkConditions) :
    LoopbackTransport :=
  { transport with conditions }

def connect (transport : LoopbackTransport) : Bool × LoopbackTransport :=
  if !transport.hasState then
    (false, { transport with stateValue := .failed, lastError := .notConnected })
  else (true, { transport with stateValue := .connected, lastError := .none })

def update (transport : LoopbackTransport) : LoopbackTransport :=
  transport.releaseOneDelayed

def close (transport : LoopbackTransport) : LoopbackTransport :=
  { transport with stateValue := .disconnected }

def failSend (transport : LoopbackTransport) (error : TransportError) : LoopbackTransport :=
  { transport with
    stats := { transport.stats with sendFailures := transport.stats.sendFailures + 1 }
    lastError := error }

/-- The ordinal of the envelope that is sent is counted before it is looked at. -/
def counted (transport : LoopbackTransport) : LoopbackTransport :=
  { transport with outgoingEnvelopeOrdinal := transport.outgoingEnvelopeOrdinal + 1 }

def countDropped (transport : LoopbackTransport) : LoopbackTransport :=
  { transport with
    stats := { transport.stats with
      envelopesDroppedByCondition := transport.stats.envelopesDroppedByCondition + 1 } }

def send (transport : LoopbackTransport) (envelope : NetworkEnvelope) :
    Bool × LoopbackTransport :=
  if !transport.hasState || transport.stateValue ≠ .connected then
    (false, transport.failSend .notConnected)
  else if ¬envelope.Ok then (false, transport.failSend .protocolRejected)
  else if transport.counted.shouldDropOutgoing then
    -- for the caller a dropped envelope is a sent one
    (true, { transport.counted.countDropped with lastError := .none })
  else if transport.counted.shouldDelayOutgoing then
    (true, { transport.counted.pushDelayed envelope with lastError := .none })
  else
    -- the delayed one comes behind the one that is sent now
    (true, { (transport.counted.pushOutgoing envelope).releaseOneDelayed with lastError := .none })

def poll (transport : LoopbackTransport) : Option NetworkEnvelope × LoopbackTransport :=
  if !transport.hasState || transport.stateValue ≠ .connected then (none, transport)
  else
    match transport.incomingQueue with
    | [] => (none, transport)
    | envelope :: rest =>
        let popped := { transport with
          state := transport.state.setOutgoing rest transport.endpoint.other }
        if ¬envelope.Ok then
          (none, { popped with
            stats := { popped.stats with receiveFailures := popped.stats.receiveFailures + 1 }
            lastError := .protocolRejected })
        else
          (some envelope, { popped with
            stats := { popped.stats with
              envelopesReceived := popped.stats.envelopesReceived + 1
              bytesReceived := popped.stats.bytesReceived + envelope.payload.length }
            lastError := .none })

/-- The way that an envelope takes which `Send` accepts. -/
def route (transport : LoopbackTransport) : Route :=
  if transport.counted.shouldDropOutgoing then .dropped
  else if transport.counted.shouldDelayOutgoing then .delayed
  else .passed

end LoopbackTransport

/-! Calls on a pair. -/

structure LoopbackPair where
  state : SharedState := {}
  ends : Endpoint → LoopbackTransport

def createPair (conditions : LoopbackNetworkConditions) : LoopbackPair where
  ends endpoint := { hasState := true, endpoint, conditions, stateValue := .connected }

/-- The endpoint with the state that both share. -/
def LoopbackPair.side (pair : LoopbackPair) (endpoint : Endpoint) : LoopbackTransport :=
  { pair.ends endpoint with state := pair.state }

def LoopbackPair.put (pair : LoopbackPair) (endpoint : Endpoint) (transport : LoopbackTransport) :
    LoopbackPair where
  state := transport.state
  ends := Function.update pair.ends endpoint transport

inductive LoopbackCall where
  | connect (endpoint : Endpoint)
  | update (endpoint : Endpoint)
  | close (endpoint : Endpoint)
  | flushDelayed (endpoint : Endpoint)
  | setNetworkConditions (endpoint : Endpoint) (conditions : LoopbackNetworkConditions)
  | send (endpoint : Endpoint) (envelope : NetworkEnvelope)
  | poll (endpoint : Endpoint)
  deriving DecidableEq

/-- The pair, the envelopes for which `Send` of an endpoint returned true, with
their routes, and those that an endpoint polled. -/
structure LoopbackRecord where
  pair : LoopbackPair
  sent : Endpoint → List (Route × NetworkEnvelope) := fun _ => []
  polled : Endpoint → List NetworkEnvelope := fun _ => []

def LoopbackRecord.put (record : LoopbackRecord) (endpoint : Endpoint)
    (transport : LoopbackTransport) : LoopbackRecord :=
  { record with pair := record.pair.put endpoint transport }

def loopbackStep (record : LoopbackRecord) : LoopbackCall → LoopbackRecord
  | .connect endpoint => record.put endpoint (record.pair.side endpoint).connect.2
  | .update endpoint => record.put endpoint (record.pair.side endpoint).update
  | .close endpoint => record.put endpoint (record.pair.side endpoint).close
  | .flushDelayed endpoint => record.put endpoint (record.pair.side endpoint).flushDelayed
  | .setNetworkConditions endpoint conditions =>
      record.put endpoint ((record.pair.side endpoint).setNetworkConditions conditions)
  | .send endpoint envelope =>
      let transport := record.pair.side endpoint
      { record.put endpoint (transport.send envelope).2 with
        sent := Function.update record.sent endpoint
          (record.sent endpoint ++
            if (transport.send envelope).1 then [(transport.route, envelope)] else []) }
  | .poll endpoint =>
      let transport := record.pair.side endpoint
      { record.put endpoint transport.poll.2 with
        polled := Function.update record.polled endpoint
          (record.polled endpoint ++ transport.poll.1.toList) }

def loopbackRun (conditions : LoopbackNetworkConditions) (calls : List LoopbackCall) :
    LoopbackRecord :=
  Runs.run loopbackStep { pair := createPair conditions } calls

/-! The line of one direction. -/

def lineOf (sent : List (Route × NetworkEnvelope)) (taken : List NetworkEnvelope)
    (transport : LoopbackTransport) : Line NetworkEnvelope where
  sent := sent
  queue := transport.outgoingQueue
  delayed := transport.delayedOutgoingQueue
  taken := taken

/-- The direction out of an endpoint is a line that some moves lead to, the counters
count its items, and every envelope on it is valid. -/
structure Books (sent : List (Route × NetworkEnvelope)) (taken : List NetworkEnvelope)
    (transport : LoopbackTransport) : Prop where
  hasState : transport.hasState = true
  onLine : ∃ moves, Runs.run lineStep {} moves = lineOf sent taken transport
  envelopesSent : transport.stats.envelopesSent = taken.length + transport.outgoingQueue.length
  dropped : transport.stats.envelopesDroppedByCondition = (along .dropped sent).length
  queued : ∀ envelope ∈ transport.outgoingQueue, envelope.Ok
  waiting : ∀ envelope ∈ transport.delayedOutgoingQueue, envelope.Ok

/-- The direction out of the endpoint is the same in both. -/
structure SameDirection (before after : LoopbackTransport) : Prop where
  hasState : after.hasState = before.hasState
  outgoing : after.outgoingQueue = before.outgoingQueue
  delayed : after.delayedOutgoingQueue = before.delayedOutgoingQueue
  envelopesSent : after.stats.envelopesSent = before.stats.envelopesSent
  dropped : after.stats.envelopesDroppedByCondition = before.stats.envelopesDroppedByCondition

theorem ok_concat {envelopes : List NetworkEnvelope} (ok : ∀ envelope ∈ envelopes, envelope.Ok)
    {last : NetworkEnvelope} (lastOk : last.Ok) :
    ∀ envelope ∈ envelopes ++ [last], envelope.Ok := by
  intro envelope member
  rcases List.mem_append.mp member with old | new
  · exact ok envelope old
  · rw [List.mem_singleton.mp new]
    exact lastOk

section Direction

variable {sent : List (Route × NetworkEnvelope)} {taken : List NetworkEnvelope}
  {transport : LoopbackTransport}

theorem Books.same (books : Books sent taken transport) {after : LoopbackTransport}
    (same : SameDirection transport after) : Books sent taken after := by
  obtain ⟨hasState, onLine, envelopesSent, dropped, queued, waiting⟩ := books
  have sameLine : lineOf sent taken after = lineOf sent taken transport := by
    unfold lineOf
    rw [same.outgoing, same.delayed]
  refine ⟨same.hasState.trans hasState, by rwa [sameLine], ?_, same.dropped.trans dropped, ?_, ?_⟩
  · rw [same.envelopesSent, same.outgoing]
    exact envelopesSent
  · rwa [same.outgoing]
  · rwa [same.delayed]

theorem on_line_next {before after : Line NetworkEnvelope}
    (onLine : ∃ moves, Runs.run lineStep {} moves = before) (move : LineMove NetworkEnvelope)
    (next : lineStep before move = after) : ∃ moves, Runs.run lineStep {} moves = after := by
  obtain ⟨moves, rfl⟩ := onLine
  exact ⟨moves ++ [move], (Runs.run_append _ _ _ _).trans next⟩

theorem push_outgoing (transport : LoopbackTransport) (envelope : NetworkEnvelope) :
    (transport.pushOutgoing envelope).outgoingQueue = transport.outgoingQueue ++ [envelope] ∧
      (transport.pushOutgoing envelope).delayedOutgoingQueue =
        transport.delayedOutgoingQueue := by
  simp [LoopbackTransport.pushOutgoing, LoopbackTransport.outgoingQueue,
    LoopbackTransport.delayedOutgoingQueue]

theorem push_delayed (transport : LoopbackTransport) (envelope : NetworkEnvelope) :
    (transport.pushDelayed envelope).outgoingQueue = transport.outgoingQueue ∧
      (transport.pushDelayed envelope).delayedOutgoingQueue =
        transport.delayedOutgoingQueue ++ [envelope] := by
  simp [LoopbackTransport.pushDelayed, LoopbackTransport.outgoingQueue,
    LoopbackTransport.delayedOutgoingQueue]

/-- The first delayed envelope goes behind the queue. -/
theorem release_queues (hasState : transport.hasState = true) {envelope : NetworkEnvelope}
    {rest : List NetworkEnvelope} (waiting : transport.delayedOutgoingQueue = envelope :: rest) :
    transport.releaseOneDelayed.outgoingQueue = transport.outgoingQueue ++ [envelope] ∧
      transport.releaseOneDelayed.delayedOutgoingQueue = rest ∧
      transport.releaseOneDelayed.stats.envelopesSent = transport.stats.envelopesSent + 1 ∧
      transport.releaseOneDelayed.stats.envelopesDroppedByCondition =
        transport.stats.envelopesDroppedByCondition ∧
      transport.releaseOneDelayed.hasState = true := by
  unfold LoopbackTransport.releaseOneDelayed
  rw [hasState, waiting]
  simp [LoopbackTransport.pushOutgoing, LoopbackTransport.outgoingQueue,
    LoopbackTransport.delayedOutgoingQueue]

theorem release_nothing (nothing : transport.delayedOutgoingQueue = []) :
    transport.releaseOneDelayed = transport := by
  unfold LoopbackTransport.releaseOneDelayed
  rw [nothing]
  split <;> rfl

theorem release_books (books : Books sent taken transport) :
    Books sent taken transport.releaseOneDelayed := by
  cases delayed : transport.delayedOutgoingQueue with
  | nil => rwa [release_nothing delayed]
  | cons envelope rest =>
      obtain ⟨hasState, onLine, envelopesSent, dropped, queued, waiting⟩ := books
      obtain ⟨outgoing, remaining, counted, same, still⟩ := release_queues hasState delayed
      rw [delayed] at waiting
      refine ⟨still, on_line_next onLine .release ?_, ?_, same.trans dropped, ?_, ?_⟩
      · simp [lineStep, lineOf, delayed, outgoing, remaining]
      · rw [counted, envelopesSent, outgoing, List.length_append, List.length_singleton]
        omega
      · rw [outgoing]
        exact ok_concat queued (waiting envelope List.mem_cons_self)
      · rw [remaining]
        exact fun other member => waiting other (List.mem_cons_of_mem envelope member)

theorem flush_books (books : Books sent taken transport) :
    Books sent taken transport.flushDelayed := by
  unfold LoopbackTransport.flushDelayed
  split
  · exact books
  · exact while_kept (Books sent taken) (fun _ kept => kept) (fun _ _ kept => release_books kept)
      _ _ books

/-- Every delayed envelope is released: the loop has turns enough. -/
theorem flush_empties (hasState : transport.hasState = true) :
    transport.flushDelayed.delayedOutgoingQueue = [] := by
  unfold LoopbackTransport.flushDelayed
  rw [if_neg (by simp [hasState])]
  refine (while_items (fun items (state : LoopbackTransport) =>
    state.hasState = true ∧ state.delayedOutgoingQueue = items) ?_ ?_
    transport.delayedOutgoingQueue _ transport (Nat.lt_succ_self _) ⟨hasState, rfl⟩).2
  · rintro envelope rest state ⟨still, waiting⟩
    obtain ⟨_, remaining, _, _, stays⟩ := release_queues still waiting
    exact ⟨state, by rw [waiting]; rfl, stays, remaining⟩
  · rintro state ⟨still, nothing⟩
    exact ⟨state, by rw [nothing]; rfl, still, nothing⟩

theorem failed_send_same (envelope : NetworkEnvelope)
    (failed : (transport.send envelope).1 = false) :
    SameDirection transport (transport.send envelope).2 := by
  unfold LoopbackTransport.send at failed ⊢
  split
  · constructor <;> rfl
  · next isOpen =>
      rw [if_neg isOpen] at failed
      split
      · constructor <;> rfl
      · next valid =>
          rw [if_neg valid] at failed
          split_ifs at failed

theorem dropped_books (books : Books sent taken transport) (envelope : NetworkEnvelope) :
    Books (sent ++ [(.dropped, envelope)]) taken transport.countDropped := by
  refine ⟨books.hasState, on_line_next books.onLine (.send .dropped envelope) ?_,
    books.envelopesSent, ?_, books.queued, books.waiting⟩
  · simp only [lineStep, lineOf, reduceCtorEq, if_false, List.append_nil]
    rfl
  · change transport.stats.envelopesDroppedByCondition + 1 = _
    simp [books.dropped]

theorem delayed_books (books : Books sent taken transport) {envelope : NetworkEnvelope}
    (ok : envelope.Ok) :
    Books (sent ++ [(.delayed, envelope)]) taken (transport.pushDelayed envelope) := by
  obtain ⟨outgoing, delayed⟩ := push_delayed transport envelope
  refine ⟨books.hasState, on_line_next books.onLine (.send .delayed envelope) ?_, ?_, ?_, ?_, ?_⟩
  · simp [lineStep, lineOf, outgoing, delayed]
  · rw [outgoing]
    exact books.envelopesSent
  · change transport.stats.envelopesDroppedByCondition = _
    simp [books.dropped]
  · rw [outgoing]
    exact books.queued
  · rw [delayed]
    exact ok_concat books.waiting ok

theorem passed_books (books : Books sent taken transport) {envelope : NetworkEnvelope}
    (ok : envelope.Ok) :
    Books (sent ++ [(.passed, envelope)]) taken (transport.pushOutgoing envelope) := by
  obtain ⟨outgoing, delayed⟩ := push_outgoing transport envelope
  refine ⟨books.hasState, on_line_next books.onLine (.send .passed envelope) ?_, ?_, ?_, ?_, ?_⟩
  · simp [lineStep, lineOf, outgoing, delayed]
  · change transport.stats.envelopesSent + 1 = _
    rw [outgoing, books.envelopesSent, List.length_append, List.length_singleton, Nat.add_assoc]
  · change transport.stats.envelopesDroppedByCondition = _
    simp [books.dropped]
  · rw [outgoing]
    exact ok_concat books.queued ok
  · rw [delayed]
    exact books.waiting

/-- An accepted envelope is sent along its route; behind one that passes a delayed
one is released. -/
theorem send_books (books : Books sent taken transport) (envelope : NetworkEnvelope)
    (accepted : (transport.send envelope).1 = true) :
    Books (sent ++ [(transport.route, envelope)]) taken (transport.send envelope).2 := by
  have counted : Books sent taken transport.counted := books.same ⟨rfl, rfl, rfl, rfl, rfl⟩
  unfold LoopbackTransport.send at accepted ⊢
  split at accepted
  · cases accepted
  · next isOpen =>
      rw [if_neg isOpen]
      split at accepted
      · cases accepted
      · next valid =>
          rw [if_neg valid]
          have ok := not_not.mp valid
          -- the route is decided by the checks of `Send`, in their order
          unfold LoopbackTransport.route
          split
          · exact (dropped_books counted envelope).same ⟨rfl, rfl, rfl, rfl, rfl⟩
          · split
            · exact (delayed_books counted ok).same ⟨rfl, rfl, rfl, rfl, rfl⟩
            · exact (release_books (passed_books counted ok)).same ⟨rfl, rfl, rfl, rfl, rfl⟩

end Direction

/-! The other direction. -/

/-- What comes in is the same in both. -/
structure OwnOnly (before after : LoopbackTransport) : Prop where
  endpoint : after.endpoint = before.endpoint
  incoming : after.state.outgoing before.endpoint.other =
    before.state.outgoing before.endpoint.other
  delayed : after.state.delayed before.endpoint.other = before.state.delayed before.endpoint.other

section Own

variable (transport : LoopbackTransport)

theorem OwnOnly.trans {first second third : LoopbackTransport} (one : OwnOnly first second)
    (two : OwnOnly second third) : OwnOnly first third := by
  obtain ⟨endpoint, incoming, delayed⟩ := two
  rw [one.endpoint] at endpoint incoming delayed
  exact ⟨endpoint, incoming.trans one.incoming, delayed.trans one.delayed⟩

theorem push_outgoing_own (envelope : NetworkEnvelope) :
    OwnOnly transport (transport.pushOutgoing envelope) := by
  constructor <;> simp [LoopbackTransport.pushOutgoing]

theorem push_delayed_own (envelope : NetworkEnvelope) :
    OwnOnly transport (transport.pushDelayed envelope) := by
  constructor <;> simp [LoopbackTransport.pushDelayed]

theorem release_own : OwnOnly transport transport.releaseOneDelayed := by
  unfold LoopbackTransport.releaseOneDelayed
  split
  · constructor <;> rfl
  · split
    · constructor <;> rfl
    · next envelope rest waiting =>
        refine OwnOnly.trans ?_ (push_outgoing_own _ envelope)
        constructor <;> simp

theorem flush_own : OwnOnly transport transport.flushDelayed := by
  unfold LoopbackTransport.flushDelayed
  split
  · constructor <;> rfl
  · exact while_kept (OwnOnly transport) (fun _ own => own)
      (fun state _ own => own.trans (release_own state)) _ _ ⟨rfl, rfl, rfl⟩

theorem send_own (envelope : NetworkEnvelope) :
    OwnOnly transport (transport.send envelope).2 := by
  have counted : OwnOnly transport transport.counted := ⟨rfl, rfl, rfl⟩
  unfold LoopbackTransport.send
  split
  · constructor <;> rfl
  · split
    · constructor <;> rfl
    · split
      · constructor <;> rfl
      · split
        · exact (counted.trans (push_delayed_own _ envelope)).trans ⟨rfl, rfl, rfl⟩
        · exact ((counted.trans (push_outgoing_own _ envelope)).trans (release_own _)).trans
            ⟨rfl, rfl, rfl⟩

end Own

/-- `Poll` takes the first envelope that comes in and leaves the own direction as
it is. -/
structure Polled (before : LoopbackTransport) (polled : Option NetworkEnvelope × LoopbackTransport) :
    Prop where
  endpoint : polled.2.endpoint = before.endpoint
  own : SameDirection before polled.2
  incoming : before.incomingQueue = polled.1.toList ++ polled.2.incomingQueue
  delayed : polled.2.state.delayed before.endpoint.other =
    before.state.delayed before.endpoint.other

theorem poll_polled (transport : LoopbackTransport)
    (valid : ∀ envelope ∈ transport.incomingQueue, envelope.Ok) :
    Polled transport transport.poll := by
  unfold LoopbackTransport.poll
  split
  · exact ⟨rfl, ⟨rfl, rfl, rfl, rfl, rfl⟩, rfl, rfl⟩
  · split
    · next empty => exact ⟨rfl, ⟨rfl, rfl, rfl, rfl, rfl⟩, rfl, rfl⟩
    · next envelope rest incoming =>
        have ok : envelope.Ok := valid envelope (by rw [incoming]; exact List.mem_cons_self)
        have apart : transport.endpoint ≠ transport.endpoint.other := (other_ne _).symm
        dsimp only
        rw [if_neg (not_not.mpr ok)]
        refine ⟨rfl, ⟨rfl, ?_, ?_, rfl, rfl⟩, ?_, ?_⟩
        · simp [LoopbackTransport.outgoingQueue, apart]
        · simp [LoopbackTransport.delayedOutgoingQueue]
        · rw [incoming]
          simp [LoopbackTransport.incomingQueue]
        · simp

/-- What the other endpoint takes off the queue. -/
theorem taken_books {sent : List (Route × NetworkEnvelope)} {taken : List NetworkEnvelope}
    {before after : LoopbackTransport} (books : Books sent taken before)
    (hasState : after.hasState = before.hasState) (stats : after.stats = before.stats)
    (delayed : after.delayedOutgoingQueue = before.delayedOutgoingQueue)
    {polled : Option NetworkEnvelope}
    (outgoing : before.outgoingQueue = polled.toList ++ after.outgoingQueue) :
    Books sent (taken ++ polled.toList) after := by
  cases polled with
  | none =>
      rw [Option.toList_none, List.append_nil]
      exact books.same ⟨hasState, outgoing.symm, delayed, by rw [stats], by rw [stats]⟩
  | some envelope =>
      rw [Option.toList_some, List.singleton_append] at outgoing
      refine ⟨hasState.trans books.hasState, on_line_next books.onLine .take ?_, ?_, ?_, ?_, ?_⟩
      · simp [lineStep, lineOf, outgoing, delayed]
      · rw [stats, books.envelopesSent, outgoing, List.length_cons, List.length_append,
          Option.toList_some, List.length_singleton]
        omega
      · rw [stats]
        exact books.dropped
      · intro other member
        exact books.queued other (outgoing ▸ List.mem_cons_of_mem envelope member)
      · rw [delayed]
        exact books.waiting

/-! Runs. -/

/-- Each endpoint is in its place, and each direction has its books. -/
structure Conserving (record : LoopbackRecord) : Prop where
  endpoint : ∀ endpoint, (record.pair.ends endpoint).endpoint = endpoint
  books : ∀ endpoint, Books (record.sent endpoint) (record.polled endpoint.other)
    (record.pair.side endpoint)

section Steps

variable {record : LoopbackRecord} {endpoint : Endpoint} {transport : LoopbackTransport}

theorem put_own (record : LoopbackRecord) (endpoint : Endpoint) (transport : LoopbackTransport) :
    (record.put endpoint transport).pair.side endpoint = transport := by
  simp [LoopbackRecord.put, LoopbackPair.put, LoopbackPair.side]

theorem put_other (record : LoopbackRecord) (endpoint : Endpoint)
    (transport : LoopbackTransport) :
    (record.put endpoint transport).pair.side endpoint.other =
      { record.pair.side endpoint.other with state := transport.state } := by
  simp [LoopbackRecord.put, LoopbackPair.put, LoopbackPair.side]

theorem put_endpoint (conserving : Conserving record) (same : transport.endpoint = endpoint)
    (other : Endpoint) : ((record.put endpoint transport).pair.ends other).endpoint = other := by
  by_cases here : other = endpoint
  · subst here
    simpa [LoopbackRecord.put, LoopbackPair.put] using same
  · simpa [LoopbackRecord.put, LoopbackPair.put, here] using conserving.endpoint other

theorem endpoint_cases (endpoint other : Endpoint) : other = endpoint ∨ other = endpoint.other := by
  cases endpoint <;> cases other <;> simp [Endpoint.other]

/-- A call that touches only the own direction keeps the books of the other. -/
theorem own_books (conserving : Conserving record)
    (own : OwnOnly (record.pair.side endpoint) transport) :
    Books (record.sent endpoint.other) (record.polled endpoint)
      { record.pair.side endpoint.other with state := transport.state } := by
  have isEndpoint : (record.pair.side endpoint).endpoint = endpoint := conserving.endpoint endpoint
  have isOther : (record.pair.side endpoint.other).endpoint = endpoint.other :=
    conserving.endpoint endpoint.other
  have books := conserving.books endpoint.other
  rw [other_other] at books
  apply books.same
  obtain ⟨_, incoming, delayed⟩ := own
  rw [isEndpoint] at incoming delayed
  refine ⟨rfl, ?_, ?_, rfl, rfl⟩
  · unfold LoopbackTransport.outgoingQueue
    rw [isOther]
    exact incoming
  · unfold LoopbackTransport.delayedOutgoingQueue
    rw [isOther]
    exact delayed

theorem own_step (conserving : Conserving record)
    (own : OwnOnly (record.pair.side endpoint) transport)
    {sent : List (Route × NetworkEnvelope)}
    (books : Books sent (record.polled endpoint.other) transport) :
    Conserving { record.put endpoint transport with
      sent := Function.update record.sent endpoint sent } where
  endpoint := put_endpoint conserving (own.endpoint.trans (conserving.endpoint endpoint))
  books := by
    intro other
    rcases endpoint_cases endpoint other with rfl | rfl
    · change Books (Function.update record.sent other sent other) _
        ((record.put other transport).pair.side other)
      rw [Function.update_self, put_own]
      exact books
    · change Books (Function.update record.sent endpoint sent endpoint.other) _
        ((record.put endpoint transport).pair.side endpoint.other)
      rw [Function.update_of_ne (other_ne endpoint), put_other, other_other]
      exact own_books conserving own

/-- The same for a call that sends nothing. -/
theorem quiet_step (conserving : Conserving record)
    (own : OwnOnly (record.pair.side endpoint) transport)
    (books : Books (record.sent endpoint) (record.polled endpoint.other) transport) :
    Conserving (record.put endpoint transport) := by
  have step := own_step conserving own books
  rw [Function.update_eq_self] at step
  exact step

theorem send_step (conserving : Conserving record) (endpoint : Endpoint)
    (envelope : NetworkEnvelope) :
    Conserving (loopbackStep record (.send endpoint envelope)) := by
  apply own_step conserving (send_own _ envelope)
  have books := conserving.books endpoint
  cases accepted : ((record.pair.side endpoint).send envelope).1 with
  | false =>
      simp only [Bool.false_eq_true, if_false, List.append_nil]
      exact books.same (failed_send_same envelope accepted)
  | true => exact send_books books envelope accepted

theorem poll_step (conserving : Conserving record) (endpoint : Endpoint) :
    Conserving (loopbackStep record (.poll endpoint)) := by
  have isEndpoint : (record.pair.side endpoint).endpoint = endpoint := conserving.endpoint endpoint
  have isOther : (record.pair.side endpoint.other).endpoint = endpoint.other :=
    conserving.endpoint endpoint.other
  have theirs := conserving.books endpoint.other
  rw [other_other] at theirs
  -- what comes in is the queue of the other direction
  have incoming : (record.pair.side endpoint).incomingQueue =
      (record.pair.side endpoint.other).outgoingQueue := by
    unfold LoopbackTransport.incomingQueue LoopbackTransport.outgoingQueue
    rw [isEndpoint, isOther]
    rfl
  have polled := poll_polled (record.pair.side endpoint) (by rw [incoming]; exact theirs.queued)
  refine ⟨put_endpoint conserving (polled.endpoint.trans isEndpoint), ?_⟩
  intro other
  rcases endpoint_cases endpoint other with rfl | rfl
  · change Books _ (Function.update record.polled other _ other.other)
      ((record.put other _).pair.side other)
    rw [Function.update_of_ne (other_ne other), put_own]
    exact (conserving.books other).same polled.own
  · change Books _ (Function.update record.polled endpoint _ endpoint.other.other)
      ((record.put endpoint _).pair.side endpoint.other)
    rw [other_other, Function.update_self, put_other]
    refine taken_books theirs ?_ ?_ ?_ ?_
    · rfl
    · rfl
    · unfold LoopbackTransport.delayedOutgoingQueue
      rw [isOther]
      have delayed := polled.delayed
      rw [isEndpoint] at delayed
      exact delayed
    · rw [← incoming, polled.incoming]
      unfold LoopbackTransport.incomingQueue LoopbackTransport.outgoingQueue
      rw [polled.endpoint, isEndpoint, isOther]

theorem loopback_step_conserving (record : LoopbackRecord) (call : LoopbackCall)
    (conserving : Conserving record) : Conserving (loopbackStep record call) := by
  have booksOf := conserving.books
  cases call with
  | connect endpoint =>
      have same : OwnOnly (record.pair.side endpoint) (record.pair.side endpoint).connect.2 ∧
          SameDirection (record.pair.side endpoint) (record.pair.side endpoint).connect.2 := by
        unfold LoopbackTransport.connect
        split <;> exact ⟨⟨rfl, rfl, rfl⟩, ⟨rfl, rfl, rfl, rfl, rfl⟩⟩
      exact quiet_step conserving same.1 ((booksOf endpoint).same same.2)
  | update endpoint =>
      exact quiet_step conserving (release_own _) (release_books (booksOf endpoint))
  | close endpoint =>
      exact quiet_step conserving ⟨rfl, rfl, rfl⟩
        ((booksOf endpoint).same ⟨rfl, rfl, rfl, rfl, rfl⟩)
  | flushDelayed endpoint =>
      exact quiet_step conserving (flush_own _) (flush_books (booksOf endpoint))
  | setNetworkConditions endpoint conditions =>
      exact quiet_step conserving ⟨rfl, rfl, rfl⟩
        ((booksOf endpoint).same ⟨rfl, rfl, rfl, rfl, rfl⟩)
  | send endpoint envelope => exact send_step conserving endpoint envelope
  | poll endpoint => exact poll_step conserving endpoint

end Steps

theorem loopback_run_conserving (conditions : LoopbackNetworkConditions)
    (calls : List LoopbackCall) : Conserving (loopbackRun conditions calls) := by
  apply Runs.run_invariant loopbackStep Conserving loopback_step_conserving
  refine ⟨fun _ => rfl, fun endpoint => ?_⟩
  refine ⟨rfl, ⟨[], ?_⟩, ?_, rfl, ?_, ?_⟩ <;> cases endpoint
  all_goals first | rfl | exact fun _ member => absurd member List.not_mem_nil

/-- What is asked of the direction out of an endpoint. -/
structure Conserved (record : LoopbackRecord) (endpoint : Endpoint) : Prop where
  /-- What was accepted was polled, or is queued, delayed or dropped. -/
  items : ((record.sent endpoint).map Prod.snd : Multiset NetworkEnvelope) =
    record.polled endpoint.other + record.pair.state.outgoing endpoint +
      record.pair.state.delayed endpoint + along .dropped (record.sent endpoint)
  dropped : (record.pair.ends endpoint).stats.envelopesDroppedByCondition =
    (along .dropped (record.sent endpoint)).length
  envelopesSent : (record.pair.ends endpoint).stats.envelopesSent =
    (record.polled endpoint.other).length + (record.pair.state.outgoing endpoint).length
  /-- The delayed ones are released in order, and what was polled or is queued is
  made of them and of those that passed, each in the order of sending. -/
  inOrder : ∃ released,
    along .delayed (record.sent endpoint) = released ++ record.pair.state.delayed endpoint ∧
    Merged (along .passed (record.sent endpoint)) released
      (record.polled endpoint.other ++ record.pair.state.outgoing endpoint)

/-- After any calls on the pair each direction conserves its envelopes. -/
theorem conditions_conserve (conditions : LoopbackNetworkConditions) (calls : List LoopbackCall)
    (endpoint : Endpoint) : Conserved (loopbackRun conditions calls) endpoint := by
  have conserving := loopback_run_conserving conditions calls
  generalize loopbackRun conditions calls = record at conserving ⊢
  have isEndpoint : (record.pair.side endpoint).endpoint = endpoint := conserving.endpoint endpoint
  have outgoing : (record.pair.side endpoint).outgoingQueue =
      record.pair.state.outgoing endpoint := by
    unfold LoopbackTransport.outgoingQueue
    rw [isEndpoint]
    rfl
  have delayed : (record.pair.side endpoint).delayedOutgoingQueue =
      record.pair.state.delayed endpoint := by
    unfold LoopbackTransport.delayedOutgoingQueue
    rw [isEndpoint]
    rfl
  -- the line of the direction is a run of moves, of which the order is known
  obtain ⟨_, ⟨moves, isLine⟩, envelopesSent, dropped, _, _⟩ := conserving.books endpoint
  rw [outgoing] at envelopesSent
  have ordered := line_run_ordered moves
  unfold lineOf at isLine
  rw [isLine, outgoing, delayed] at ordered
  exact ⟨Multiset.coe_eq_coe.mpr ordered.conserved, dropped, envelopesSent, ordered⟩

end Brawololo.LoopbackConditions
