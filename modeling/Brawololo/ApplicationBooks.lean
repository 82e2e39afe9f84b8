import Brawololo.ClientBooks
import Brawololo.DeltaBaselines

/-!
The books of a client application in a game. Its inputs are numbered from one
on, an input stays pending until a snapshot acknowledges it, and once the login
is sent every input goes to the hub.
-/

namespace Brawololo.ApplicationBooks

open GameTypes EntityStore NetworkEvents NetworkProtocol Serialization Simulation Client
open LoopbackHub HubTransports SessionExchanges LoginOrder NetworkedGames ClientBooks
open DeltaBaselines ByteReader

/-! The runtime. -/

/-- None of the snapshots acknowledges the input. -/
def unacknowledged (applied : List SnapshotDTO) (packet : ClientInputPacket) : Bool :=
  applied.all fun snapshot => snapshot.ackedInputSequence < packet.header.sequence

/-- The acknowledgements are of inputs that were submitted. -/
def AcksFit (applied : List SnapshotDTO) (submitted : List ClientInputPacket) : Prop :=
  ∀ snapshot ∈ applied, snapshot.ackedInputSequence.toNat ≤ submitted.length

/-- What a runtime keeps of the inputs it queued and the snapshots it applied. -/
structure RuntimeBook (clientId : ClientId) (runtime : ClientRuntime)
    (submitted : List ClientInputPacket) (applied : List SnapshotDTO) : Prop where
  client : runtime.localClientId = clientId
  next : runtime.nextSequence = UInt32.ofNat (submitted.length + 1)
  numbered : submitted.map (fun packet => packet.header.sequence) = idsUpTo submitted.length
  own : ∀ packet ∈ submitted, packet.header.clientId = clientId
  pending : submitted.length < 2 ^ 32 → runtime.pendingInputs.unackedInputs =
    submitted.filter fun packet => unacknowledged applied packet

section Runtime

variable {clientId : ClientId} {runtime : ClientRuntime} {submitted : List ClientInputPacket}
variable {applied : List SnapshotDTO}

theorem new_runtime_book (clientId : ClientId) (config : SimulationConfig) :
    RuntimeBook clientId (.new clientId config) [] [] :=
  ⟨rfl, rfl, rfl, by simp, fun _ => rfl⟩

theorem ids_up_to_succ (count : Nat) :
    idsUpTo (count + 1) = idsUpTo count ++ [UInt32.ofNat (count + 1)] := by
  unfold idsUpTo
  rw [List.range_succ, List.map_append]
  rfl

/-- Only queueing and acknowledging touch the inputs. -/
theorem book_of_same {after : ClientRuntime} (book : RuntimeBook clientId runtime submitted applied)
    (client : after.localClientId = runtime.localClientId)
    (next : after.nextSequence = runtime.nextSequence)
    (pending : after.pendingInputs = runtime.pendingInputs) :
    RuntimeBook clientId after submitted applied where
  client := client.trans book.client
  next := next.trans book.next
  numbered := book.numbered
  own := book.own
  pending := by
    rw [pending]
    exact book.pending

theorem queue_book (book : RuntimeBook clientId runtime submitted applied)
    (fit : AcksFit applied submitted) (input : InputFrame) (localTimeMs : TimestampMs) :
    RuntimeBook clientId (runtime.queueInput input localTimeMs)
      (submitted ++ [runtime.queuedPacket input localTimeMs]) applied where
  client := book.client
  next := by
    change runtime.nextSequence + 1 = _
    rw [book.next, List.length_append, List.length_singleton, ← UInt32.toNat_inj]
    simp
  numbered := by
    rw [List.map_append, book.numbered, List.length_append, List.length_singleton, ids_up_to_succ]
    exact congrArg (fun sequence => idsUpTo submitted.length ++ [sequence]) book.next
  own := by
    intro packet member
    rcases List.mem_append.mp member with old | new
    · exact book.own packet old
    · rw [List.mem_singleton.mp new]
      exact book.client
  pending := by
    intro few
    rw [List.length_append, List.length_singleton] at few
    have isNew : unacknowledged applied (runtime.queuedPacket input localTimeMs) = true := by
      refine List.all_eq_true.mpr fun snapshot member => decide_eq_true ?_
      have below := fit snapshot member
      have isNext : (runtime.queuedPacket input localTimeMs).header.sequence =
          UInt32.ofNat (submitted.length + 1) := book.next
      rw [isNext, UInt32.lt_iff_toNat_lt, UInt32.toNat_ofNat']
      omega
    rw [ClientRuntime.queue_input_records, book.pending (by omega), List.filter_append,
      List.filter_singleton, isNew]
    rfl

theorem apply_book (book : RuntimeBook clientId runtime submitted applied) (order : LoopOrder)
    (snapshot : SnapshotDTO) :
    RuntimeBook clientId (runtime.applyServerSnapshot order snapshot) submitted
      (applied ++ [snapshot]) where
  client := book.client
  next := book.next
  numbered := book.numbered
  own := book.own
  pending := by
    intro few
    change (runtime.pendingInputs.unackedInputs.filter fun packet =>
      snapshot.ackedInputSequence < packet.header.sequence) = _
    rw [book.pending few, List.filter_filter]
    apply List.filter_congr
    intro packet _
    unfold unacknowledged
    rw [List.all_append, Bool.and_comm]
    simp

theorem pump_calls_book {calls : List ClientCall} {snapshots : List SnapshotDTO}
    (pumped : PumpCalls calls snapshots) (book : RuntimeBook clientId runtime submitted applied) :
    RuntimeBook clientId (Runs.run clientStep runtime calls) submitted (applied ++ snapshots) := by
  induction pumped generalizing runtime applied with
  | nil =>
      rw [List.append_nil]
      exact book
  | applied order snapshot _ ih =>
      have later := ih (apply_book book order snapshot)
      rw [List.append_assoc] at later
      exact later
  | sampled sample _ ih => exact ih (book_of_same book rfl rfl rfl)

end Runtime

/-! The flags of a session. -/

/-- A session that has sent its login is active. -/
def ActiveOnceSent {Link : Type} (session : RemoteClientSession Link) : Prop :=
  session.loginSent = true → session.sessionActive = true

section Flags

variable {Link : Type} (io : ITransport Link) {session : RemoteClientSession Link}

theorem active_of_same {after : RemoteClientSession Link} (active : ActiveOnceSent session)
    (sent : after.loginSent = session.loginSent)
    (same : after.sessionActive = session.sessionActive) : ActiveOnceSent after := by
  intro isSent
  rw [sent] at isSent
  exact same.trans (active isSent)

theorem send_active (active : ActiveOnceSent session) (envelope : NetworkEnvelope) :
    ActiveOnceSent (session.send io envelope).1 := by
  unfold RemoteClientSession.send
  split
  · exact active
  · exact active_of_same active rfl rfl

theorem try_send_login_active (active : ActiveOnceSent session) (nowMs : TimestampMs) :
    ActiveOnceSent (session.trySendLogin io nowMs).1 := by
  unfold RemoteClientSession.trySendLogin
  split
  · exact active
  · split
    · exact active
    · split
      · exact active
      · dsimp only
        split
        · exact active_of_same active rfl rfl
        · exact fun sent => sent

theorem connect_active (active : ActiveOnceSent session) (localClientId : ClientId)
    (nowMs : TimestampMs) : ActiveOnceSent (session.connect io localClientId nowMs).1 := by
  unfold RemoteClientSession.connect
  split
  · exact active
  · dsimp only
    split
    · exact active_of_same active rfl rfl
    · split
      · exact fun _ => rfl
      · exact try_send_login_active io (fun _ => rfl) nowMs

theorem tick_active (active : ActiveOnceSent session) (nowMs : TimestampMs) :
    ActiveOnceSent (session.tick io nowMs) := by
  unfold RemoteClientSession.tick
  dsimp only
  split
  · exact active_of_same active rfl rfl
  · split
    · exact active_of_same active rfl rfl
    · split
      · refine try_send_login_active io ?_ nowMs
        exact active_of_same active rfl rfl
      · split
        · exact active_of_same active rfl rfl
        · refine active_of_same (send_active io ?_ _) rfl rfl
          exact active_of_same active rfl rfl

theorem pump_active (active : ActiveOnceSent session) (polls : Nat)
    (order : PumpState → LoopOrder) (runtime : ClientRuntime) :
    ActiveOnceSent (session.pump io polls order runtime).1 := by
  unfold RemoteClientSession.pump
  split
  · exact active
  · split
    · exact active
    · dsimp only
      split
      · refine try_send_login_active io ?_ session.lastTickTimeMs
        exact active_of_same active rfl rfl
      · exact active_of_same active rfl rfl

end Flags

/-! An application at the hub. -/

def sessionOf (app : RemoteApplication) : RemoteClientSession HubRecord :=
  app.session.getD makeRemoteSession

/-- The inputs that the hub took from a client. -/
def inputsSent (trace : List PumpHappening) : List ClientInputPacket :=
  (taken trace).filterMap inputIn

theorem inputs_sent_append (first second : List PumpHappening) :
    inputsSent (first ++ second) = inputsSent first ++ inputsSent second := by
  unfold inputsSent
  rw [taken_append, List.filterMap_append]

def talkOf (record : HubRecord) (app : RemoteApplication) : Talk HubRecord :=
  { link := record, trace := (sessionOf app).trace, runtime := app.runtime }

structure Seated (clientId : ClientId) (session : RemoteClientSession HubRecord) : Prop where
  client : session.sessionActive = true →
    session.stats.localClientId = clientId ∧ session.localClientId = clientId
  active : ActiveOnceSent session
  inOrder : InOrder session

/-- The books of the application of a client. -/
structure ClientBook (clientId : ClientId) (record : HubRecord) (app : RemoteApplication)
    (submitted afterLogin : List ClientInputPacket) : Prop where
  config : app.config.localClientId = clientId
  session : app.session = some (sessionOf app)
  seated : Seated clientId (sessionOf app)
  booked : Booked clientId (talkOf record app)
  runtime : RuntimeBook clientId app.runtime submitted
    ((sessionOf app).trace.filterMap appliedIn)
  sent : inputsSent (sessionOf app).trace = afterLogin
  among : afterLogin.Sublist submitted

/-- What a call of the application makes of the books, and leaves of the others. -/
structure CallBook (clientId : ClientId) (record : HubRecord) (app called : RemoteApplication)
    (submitted afterLogin : List ClientInputPacket) : Prop where
  book : ClientBook clientId (hubOf record called) called submitted afterLogin
  leaves : LeavesOthers (.client clientId) record (hubOf record called)
  routed : Routed record → Routed (hubOf record called)
  grown : (sessionOf app).trace <+: (sessionOf called).trace

section Calls

variable {clientId : ClientId} {record : HubRecord} {app called : RemoteApplication}
variable {submitted afterLogin : List ClientInputPacket}

theorem start_client_book (clientId : ClientId) :
    ClientBook clientId {} (startClient clientId) [] [] where
  config := rfl
  session := rfl
  seated := ⟨fun active => (by cases active), fun sent => (by cases sent),
    fun _ => rfl, fun sent => (by cases sent)⟩
  booked := ⟨⟨rfl, rfl⟩, rfl, rfl, rfl, by simp [talkOf, sessionOf, startClient,
    ClientApplication.new, makeRemoteSession, taken]⟩
  runtime := new_runtime_book clientId {}
  sent := rfl
  among := List.Sublist.refl _

/-- A call that sends no input: the session converses from where it was, with a
runtime that the application may have called before. -/
theorem conversed_book {session' : RemoteClientSession HubRecord}
    (session : RemoteClientSession HubRecord) (runtime : ClientRuntime)
    (isTrace : session.trace = (sessionOf app).trace) (seated : Seated clientId session')
    (booked : Booked clientId { link := record, trace := session.trace, runtime := runtime })
    (runtimeBook : RuntimeBook clientId runtime submitted (session.trace.filterMap appliedIn))
    (sent : inputsSent session.trace = afterLogin) (among : afterLogin.Sublist submitted)
    (conversed : Conversed (hubTransport (.client clientId)) clientId (Housekeeping clientId)
      session runtime record session' called.runtime)
    (config : called.config.localClientId = clientId) (isSession : called.session = some session') :
    CallBook clientId record app called submitted afterLogin := by
  obtain ⟨link, speaks, exchanges⟩ := conversed
  obtain ⟨polled, added, noted⟩ := exchanges_noted exchanges
  have isHub : hubOf record called = link := by
    unfold hubOf
    rw [isSession, Option.bind_some, speaks.transport]
    rfl
  have isSessionOf : sessionOf called = session' := by
    unfold sessionOf
    rw [isSession]
    rfl
  have trace := noted.trace
  dsimp only at trace
  rw [← isHub] at noted
  refine ⟨⟨config, ?_, ?_, ?_, ?_, ?_, among⟩, noted.logged.leaves, noted.logged.routed, ?_⟩
  · rw [isSession, isSessionOf]
  · rw [isSessionOf]
    exact seated
  · have after := noted.booked booked
    unfold talkOf
    rw [isSessionOf]
    exact after
  · obtain ⟨calls, pumped, ran⟩ := noted.runtime
    rw [isSessionOf, trace, List.filterMap_append, show called.runtime = _ from ran]
    exact pump_calls_book pumped runtimeBook
  · rw [isSessionOf, trace, inputs_sent_append]
    unfold inputsSent
    rw [noted.inputs, List.append_nil]
    exact sent
  · rw [isSessionOf, trace, isTrace]
    exact List.prefix_append _ _

/-- The session as the application calls it. -/
def lent (record : HubRecord) (app : RemoteApplication) : RemoteClientSession HubRecord :=
  { sessionOf app with transport := some record }

theorem at_hub (book : ClientBook clientId record app submitted afterLogin) :
    atHub record app = { app with session := some (lent record app) } := by
  unfold atHub
  rw [book.session]
  rfl

theorem lent_seated (book : ClientBook clientId record app submitted afterLogin) :
    Seated clientId (lent record app) :=
  ⟨book.seated.client, book.seated.active, book.seated.inOrder.unsent, book.seated.inOrder.sent⟩

theorem lent_booked (book : ClientBook clientId record app submitted afterLogin)
    (runtime : ClientRuntime) :
    Booked clientId
      { link := record, trace := (lent record app).trace, runtime := runtime } :=
  ⟨book.booked.isOpen, book.booked.sends, book.booked.applied, book.booked.surfaced,
    book.booked.spoken⟩

theorem lent_speaks (book : ClientBook clientId record app submitted afterLogin) :
    Speaks clientId (lent record app) record :=
  ⟨rfl, book.seated.client⟩

theorem connect_call_book (book : ClientBook clientId record app submitted afterLogin)
    (nowMs : TimestampMs) :
    CallBook clientId record app
      ((atHub record app).connect (remoteSession (hubTransport (.client clientId))) nowMs).2
      submitted afterLogin := by
  let io := hubTransport (.client clientId)
  let runtime := app.runtime.connectLocal nowMs
  let connected := ((lent record app).connect io clientId nowMs).1
  have conversed : Conversed io clientId (Housekeeping clientId) (lent record app) runtime record
      connected runtime := connect_conversed rfl housekeeping_logins nowMs
  have isCalled :
      ((atHub record app).connect (remoteSession (hubTransport (.client clientId))) nowMs).2 =
        { app with runtime := runtime, session := some connected } := by
    rw [at_hub book]
    unfold ClientApplication.connect
    dsimp only
    rw [book.config]
    rfl
  have ⟨_, speaks, _⟩ := conversed
  have before := lent_seated book
  have seated : Seated clientId connected :=
    ⟨speaks.client, connect_active io before.active clientId nowMs,
      spoke_in_order (connect_spoke io (lent record app) clientId nowMs) before.inOrder⟩
  rw [isCalled]
  exact conversed_book (lent record app) runtime rfl seated (lent_booked book _)
    (book_of_same book.runtime rfl rfl rfl) book.sent book.among conversed
    book.config rfl

/-- A tick of the application: the runtime ticks, and then the session converses. -/
theorem tick_call_conversed (book : ClientBook clientId record app submitted afterLogin)
    (order : LoopOrder) (choice : PumpChoice) (nowMs : TimestampMs) :
    ∃ session runtime,
      (atHub record app).tickFixed (remoteSession (hubTransport (.client clientId))) order choice
          nowMs =
        { app with runtime := runtime, session := some session, fixedTick := app.fixedTick + 1 } ∧
      Seated clientId session ∧
      Conversed (hubTransport (.client clientId)) clientId (Housekeeping clientId)
        (lent record app) (app.runtime.tickSimulation order) record session runtime := by
  let io := hubTransport (.client clientId)
  let runtime := app.runtime.tickSimulation order
  let ticked := (lent record app).tick io nowMs
  let pumped := ticked.pump io choice.polls choice.order runtime
  have ticking : Conversed io clientId (Housekeeping clientId) (lent record app) runtime record
      ticked runtime :=
    tick_conversed (lent_speaks book) housekeeping_logins housekeeping_syncs nowMs
  obtain ⟨link, speaks, ticks⟩ := ticking
  have pumping : Conversed io clientId (Housekeeping clientId) ticked runtime link pumped.1
      pumped.2 := pump_conversed speaks housekeeping_logins choice.polls choice.order
  obtain ⟨last, speaks', pumps⟩ := pumping
  have before := lent_seated book
  have seated : Seated clientId pumped.1 :=
    ⟨speaks'.client,
      pump_active io (tick_active io before.active nowMs) choice.polls choice.order runtime,
      spoke_in_order (pump_spoke io choice.polls choice.order ticked runtime)
        (spoke_in_order (tick_spoke io (lent record app) nowMs) before.inOrder)⟩
  refine ⟨pumped.1, pumped.2, ?_, seated, last, speaks', ticks.trans pumps⟩
  rw [at_hub book]
  rfl

theorem tick_call_book (book : ClientBook clientId record app submitted afterLogin)
    (order : LoopOrder) (choice : PumpChoice) (nowMs : TimestampMs) :
    CallBook clientId record app
      ((atHub record app).tickFixed (remoteSession (hubTransport (.client clientId))) order choice
        nowMs)
      submitted afterLogin := by
  obtain ⟨session, runtime, isTicked, seated, conversed⟩ :=
    tick_call_conversed book order choice nowMs
  rw [isTicked]
  exact conversed_book (lent record app) (app.runtime.tickSimulation order) rfl seated
    (lent_booked book _) (book_of_same book.runtime rfl rfl rfl) book.sent book.among conversed
    book.config rfl

theorem drain_call_book (book : ClientBook clientId record app submitted afterLogin) :
    CallBook clientId record app
      ((atHub record app).drainEvents (remoteSession (hubTransport (.client clientId)))).2
      submitted afterLogin := by
  have before := lent_seated book
  let drained := (lent record app).drainEvents.1
  have seated : Seated clientId drained :=
    ⟨before.client, before.active, before.inOrder.unsent, before.inOrder.sent⟩
  rw [at_hub book]
  exact conversed_book (lent record app) app.runtime.drainEvents.1 rfl seated (lent_booked book _)
    (book_of_same book.runtime rfl rfl rfl) book.sent book.among
    ⟨record, ⟨rfl, before.client⟩, Relation.ReflTransGen.refl⟩ book.config rfl

/-- Before the login an input stays with the runtime. -/
theorem unsent_input_book (book : ClientBook clientId record app submitted afterLogin)
    (fit : AcksFit ((sessionOf app).trace.filterMap appliedIn) submitted) (input : InputFrame)
    (nowMs : TimestampMs) :
    CallBook clientId record app
      { app with
        runtime := app.runtime.queueInput input nowMs
        session := some (lent record app) }
      (submitted ++ [app.runtime.queuedPacket input nowMs]) afterLogin :=
  conversed_book (lent record app) (app.runtime.queueInput input nowMs) rfl (lent_seated book)
    (lent_booked book _) (queue_book book.runtime fit input nowMs) book.sent
    (book.among.trans (List.sublist_append_left _ _)) (conversed_silent (lent_speaks book))
    book.config rfl

/-- After it the input is taken by the hub. -/
theorem sent_input_book (book : ClientBook clientId record app submitted afterLogin)
    (fit : AcksFit ((sessionOf app).trace.filterMap appliedIn) submitted)
    (routed : Routed record) (input : InputFrame) (nowMs : TimestampMs)
    (sent : (lent record app).loginSent = true) :
    CallBook clientId record app
      { app with
        runtime := app.runtime.queueInput input nowMs
        session := some ((lent record app).sendInput (hubTransport (.client clientId))
          (app.runtime.queuedPacket input nowMs)) }
      (submitted ++ [app.runtime.queuedPacket input nowMs])
      (afterLogin ++ [app.runtime.queuedPacket input nowMs]) := by
  let io := hubTransport (.client clientId)
  let packet := app.runtime.queuedPacket input nowMs
  let link := (io.send (inputEnvelope packet) record).2
  let session := lent record app
  let added : List PumpHappening := [.handed (inputEnvelope packet) true]
  have before := lent_seated book
  have own : packet.header.clientId = clientId := book.runtime.client
  have answer : (io.send (inputEnvelope packet) record).1 = true :=
    open_client_answer book.booked.isOpen (routed.endpoints (.client clientId))
      (input_valid packet)
  have logged := send_logged clientId record (inputEnvelope packet)
  rw [show ((hubTransport (.client clientId)).send (inputEnvelope packet) record).1 = true
    from answer, ← taken_handed] at logged
  have isSent : session.sendInput io packet =
      { session with
        transport := some link
        trace := session.trace ++ added } := by
    unfold RemoteClientSession.sendInput
    rw [if_neg (by simp [session, before.active sent, sent])]
    unfold RemoteClientSession.send
    dsimp only [session, lent]
    rw [answer]
  have inOrder := spoke_in_order (send_input_spoke io session packet) before.inOrder
  rw [isSent] at inOrder ⊢
  refine ⟨⟨book.config, rfl, ⟨before.client, before.active, inOrder⟩, ?_, ?_, ?_,
    book.among.append (List.Sublist.refl _)⟩,
    logged.leaves, logged.routed, List.prefix_append _ _⟩
  · have spoken : ∀ envelope ∈ taken added, Spoken clientId added envelope := by
      intro envelope member
      rw [taken_member member]
      exact .input packet own
    have after : Booked clientId
        { link := link, trace := session.trace ++ added, runtime := app.runtime } :=
      booked_grown (lent_booked book app.runtime) logged rfl rfl rfl spoken
    exact ⟨after.isOpen, after.sends, after.applied, after.surfaced, after.spoken⟩
  · have queued := queue_book book.runtime fit input nowMs
    change RuntimeBook clientId _ _
      ((session.trace ++ added).filterMap appliedIn)
    rw [List.filterMap_append, show added.filterMap appliedIn = [] from rfl, List.append_nil]
    exact queued
  · change inputsSent (session.trace ++ added) = _
    have isInput : inputsSent added = [packet] := by
      unfold inputsSent
      rw [taken_handed, if_pos rfl, List.filterMap_cons_some (input_in_envelope packet)]
      rfl
    rw [inputs_sent_append, isInput]
    exact congrArg (· ++ [packet]) book.sent

theorem login_sent (book : ClientBook clientId record app submitted afterLogin) :
    loginSent app = (sessionOf app).loginSent := by
  unfold loginSent
  rw [book.session]
  rfl

theorem submit_call_book (book : ClientBook clientId record app submitted afterLogin)
    (fit : AcksFit ((sessionOf app).trace.filterMap appliedIn) submitted)
    (routed : Routed record) (input : InputFrame) (nowMs : TimestampMs) :
    CallBook clientId record app
      ((atHub record app).submitInput (remoteSession (hubTransport (.client clientId))) input
        nowMs).2
      (submitted ++ [app.runtime.queuedPacket input nowMs])
      (afterLogin ++ returnedAfterLogin app (.submitInput input nowMs)) := by
  unfold returnedAfterLogin
  rw [at_hub book, login_sent book]
  cases sent : (lent record app).loginSent with
  | false =>
      have unsent : (lent record app).sendInput (hubTransport (.client clientId))
          (app.runtime.queuedPacket input nowMs) = lent record app := by
        unfold RemoteClientSession.sendInput
        rw [if_pos (by simp [sent])]
      have stays := unsent_input_book book fit input nowMs
      rw [← unsent] at stays
      rw [show (sessionOf app).loginSent = false from sent, if_neg Bool.false_ne_true,
        List.append_nil]
      exact stays
  | true =>
      rw [show (sessionOf app).loginSent = true from sent, if_pos rfl]
      exact sent_input_book book fit routed input nowMs sent

/-- A call that is not `SubmitInput` returns no input. -/
theorem book_of_none {call : ApplicationCall PumpChoice} (none : returned app call = [])
    (book : CallBook clientId record app called submitted afterLogin) :
    CallBook clientId record app called (submitted ++ returned app call)
      (afterLogin ++ returnedAfterLogin app call) := by
  unfold returnedAfterLogin
  rw [none, ite_self, List.append_nil, List.append_nil]
  exact book

theorem call_book (book : ClientBook clientId record app submitted afterLogin)
    (fit : AcksFit ((sessionOf app).trace.filterMap appliedIn) submitted)
    (routed : Routed record) (call : ApplicationCall PumpChoice) :
    CallBook clientId record app
      (applicationStep (remoteSession (hubTransport (.client clientId))) (atHub record app) call)
      (submitted ++ returned app call) (afterLogin ++ returnedAfterLogin app call) := by
  cases call with
  | connect nowMs => exact book_of_none rfl (connect_call_book book nowMs)
  | submitInput input nowMs => exact submit_call_book book fit routed input nowMs
  | tickFixed order choice nowMs => exact book_of_none rfl (tick_call_book book order choice nowMs)
  | drainEvents => exact book_of_none rfl (drain_call_book book)

end Calls

end Brawololo.ApplicationBooks
