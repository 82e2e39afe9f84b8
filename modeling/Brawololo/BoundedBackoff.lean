import Brawololo.ResendLedger
import Brawololo.RefusedSnapshots

/-!
The network host keeps the resend schedule. A clock run stamps every happening
with the time of the call it happened in; each call makes turns in the ledger of
the stamped record, and the resend pass of a tick attempts whatever is due.
-/

namespace Brawololo.BoundedBackoff

open GameTypes EntityStore NetworkEvents NetworkProtocol Simulation Replication Server
open ServerClientReplicationState ServerNetworkHost
open DeliveryBooks HostBookkeeping HostTurns ReliableEvents ResendLedger Histories
open RefusedSnapshots

/-! The statement. -/

def tickTime : HostCall → Option TimestampMs
  | .tickAndSendSnapshots _ _ nowMs => some nowMs
  | _ => none

/-- A host, the time of its last tick, and its record with the times. -/
structure Clock where
  host : ServerNetworkHost
  nowMs : TimestampMs := 0
  log : Log := []

def clockStep (transport : Transport) (clock : Clock) (call : HostCall) : Clock :=
  let host := hostStep transport clock.host call
  let nowMs := (tickTime call).getD clock.nowMs
  { host := host
    nowMs := nowMs
    log := clock.log ++
      (host.trace.drop clock.host.trace.length).map fun happening => (nowMs, happening) }

def clockRun (transport : Transport) (config : ServerNetworkHostConfig) (calls : List HostCall) :
    Clock :=
  Runs.run (clockStep transport) { host := .new config } calls

/-- The times at which the event was sent to the client and taken, in a run. -/
def runSendTimes (transport : Transport) (config : ServerNetworkHostConfig)
    (calls : List HostCall) (clientId : ClientId) (eventId : NetworkEventId) : List TimestampMs :=
  sendTimes clientId eventId (clockRun transport config calls).log

theorem clock_run_host (transport : Transport) (config : ServerNetworkHostConfig)
    (calls : List HostCall) :
    (clockRun transport config calls).host = hostRun transport config calls := by
  unfold clockRun hostRun
  induction calls using List.reverseRecOn with
  | nil => rfl
  | append_singleton calls call ih =>
      rw [Runs.run_append, Runs.run_append]
      exact congrArg (hostStep transport · call) ih

/-! Turns of the host. -/

def policyOf (host : ServerNetworkHost) : Policy where
  baseIntervalMs := host.config.reliableEventResendBaseIntervalMs
  maxSendCount := host.config.reliableEventMaxSendCount

def ledgerOf (host : ServerNetworkHost) (log : Log) : Ledger where
  log := log
  pending := pendingOf (booksOf host)

/-- What is done at one time, as turns in the ledger. -/
structure Delivers (nowMs : TimestampMs) (before after : ServerNetworkHost) : Prop where
  config : after.config = before.config
  accounts : ∀ clientId, ((booksOf after).accounts clientId).isSome =
    ((booksOf before).accounts clientId).isSome
  turns : ∃ added, after.trace = before.trace ++ added ∧ ∀ log,
    Turns (policyOf before) nowMs (ledgerOf before log)
      (ledgerOf after (log ++ added.map fun happening => (nowMs, happening)))

namespace Delivers

variable {nowMs : TimestampMs}

/-- Nothing about events was recorded, and the pending events are the same. -/
theorem quietly {before after : ServerNetworkHost} (config : after.config = before.config)
    (accounts : (booksOf after).accounts = (booksOf before).accounts) {added : Trace}
    (trace : after.trace = before.trace ++ added)
    (silent : ∀ happening ∈ added, NotAboutEvents happening) : Delivers nowMs before after := by
  refine ⟨config, fun clientId => by rw [accounts], added, trace, fun log => ?_⟩
  have pending : pendingOf (booksOf after) = pendingOf (booksOf before) := by
    unfold pendingOf
    rw [accounts]
  unfold ledgerOf
  rw [pending]
  exact .single (.quiet added silent)

theorem of_same {before after : ServerNetworkHost} (config : after.config = before.config)
    (accounts : (booksOf after).accounts = (booksOf before).accounts)
    (trace : after.trace = before.trace) : Delivers nowMs before after :=
  quietly config accounts (trace.trans (List.append_nil _).symm) (by simp)

theorem refl (host : ServerNetworkHost) : Delivers nowMs host host := of_same rfl rfl rfl

theorem trans {first second third : ServerNetworkHost} (left : Delivers nowMs first second)
    (right : Delivers nowMs second third) : Delivers nowMs first third := by
  obtain ⟨one, toSecond, leftTurns⟩ := left.turns
  obtain ⟨two, toThird, rightTurns⟩ := right.turns
  have policy : policyOf second = policyOf first := by
    unfold policyOf
    rw [left.config]
  refine ⟨right.config.trans left.config,
    fun clientId => (right.accounts clientId).trans (left.accounts clientId), one ++ two, ?_, ?_⟩
  · rw [toThird, toSecond, List.append_assoc]
  · intro log
    have rest := rightTurns (log ++ one.map fun happening => (nowMs, happening))
    rw [policy, List.append_assoc, ← List.map_append] at rest
    exact (leftTurns log).trans rest

end Delivers

section Sending

variable (transport : Transport)

/-- A send to a client that the host knows. -/
theorem send_delivers (host : ServerNetworkHost) (clientId : ClientId) (event : NetworkEventDTO)
    (nowMs : TimestampMs) (isResend : Bool)
    (known : ((booksOf host).accounts clientId).isSome)
    (again : isResend = true → ∃ entry, pendingOf (booksOf host) clientId event.eventId =
      some entry ∧ entry.event = event ∧ dueForResend nowMs
        host.config.reliableEventResendBaseIntervalMs host.config.reliableEventMaxSendCount
        entry = true) :
    Delivers nowMs host (host.sendReliableEvent transport clientId event nowMs isResend) := by
  obtain ⟨account, has⟩ := Option.isSome_iff_exists.mp known
  obtain ⟨accepted, books⟩ := send_event_books transport host clientId event nowMs isResend has
  refine ⟨(send_event_rest transport host clientId event nowMs isResend).2, ?_,
    [.handed clientId (.event event isResend) accepted], congrArg Books.trace books, ?_⟩
  · intro other
    rw [books]
    exact set_account_some _ clientId account _ has other
  · intro log
    have turn : Turn (policyOf host) nowMs (ledgerOf host log) _ :=
      .sent clientId event isResend accepted again
    have same : (ledgerOf host log).send nowMs clientId event isResend accepted =
        ledgerOf (host.sendReliableEvent transport clientId event nowMs isResend)
          (log ++ [(nowMs, .handed clientId (.event event isResend) accepted)]) := by
      apply Ledger.ext (Ledger.send_log _ _ _ _ _ _)
      funext other eventId
      refine (Ledger.send_pending _ _ _ _ _ _ _ _).trans ?_
      exact ((congrArg (pendingOf · other eventId) books).trans
        (sent_pending has event nowMs accepted _ other eventId)).symm
    rw [same] at turn
    exact .single turn

/-- A loop whose turns deliver delivers. -/
theorem loop_delivers {Item : Type} {nowMs : TimestampMs}
    (turn : ServerNetworkHost → Item → ServerNetworkHost) (items : List Item)
    (host : ServerNetworkHost) (tidy : Tidy host)
    (advance : ∀ item ∈ items, ∀ between, Tidy between → between.clients = host.clients →
      Advances between (turn between item))
    (deliver : ∀ item ∈ items, ∀ between, Tidy between → between.clients = host.clients →
      Delivers nowMs between (turn between item)) :
    Delivers nowMs host (items.foldl turn host) := by
  have all : (Tidy (items.foldl turn host) ∧ (items.foldl turn host).clients = host.clients) ∧
      Delivers nowMs host (items.foldl turn host) := by
    apply Runs.run_invariant_of_mem turn
      (fun between => (Tidy between ∧ between.clients = host.clients) ∧ Delivers nowMs host between)
    · rintro item member between ⟨⟨tidyBetween, same⟩, delivered⟩
      have next := advance item member between tidyBetween same
      exact ⟨⟨next.tidy tidyBetween, next.clients.trans same⟩,
        delivered.trans (deliver item member between tidyBetween same)⟩
    · exact ⟨⟨tidy, rfl⟩, Delivers.refl host⟩
  exact all.2

/-- The loop over the clients, all of them known. -/
theorem send_to_clients_delivers (event : NetworkEventDTO) (nowMs : TimestampMs)
    (clients : List ClientId) (host : ServerNetworkHost)
    (known : ∀ clientId ∈ clients, ((booksOf host).accounts clientId).isSome) :
    Delivers nowMs host (clients.foldl (sendToClient transport event nowMs) host) := by
  induction clients generalizing host with
  | nil => exact Delivers.refl host
  | cons clientId rest ih =>
      have first : Delivers nowMs host (sendToClient transport event nowMs host clientId) := by
        unfold sendToClient
        split
        · exact Delivers.refl host
        · exact send_delivers transport host clientId event nowMs false
            (known clientId List.mem_cons_self) (by simp)
      refine first.trans (ih _ ?_)
      intro other member
      rw [first.accounts]
      exact known other (List.mem_cons_of_mem clientId member)

theorem number_event_delivers (host : ServerNetworkHost) (nowMs : TimestampMs) :
    Delivers nowMs host host.numberEvent.1 :=
  .quietly rfl rfl rfl (by
    intro happening member
    rw [List.mem_singleton.mp member]
    exact ⟨by simp, by simp⟩)

theorem broadcast_event_delivers (nowMs : TimestampMs) (host : ServerNetworkHost)
    (tidy : Tidy host) (event : DomainEvent) :
    Delivers nowMs host (host.broadcastEvent transport nowMs event) := by
  have numbered := number_event_delivers host nowMs
  unfold broadcastEvent
  split
  · next after result =>
      obtain rfl := numbered_event_host result
      exact numbered
  · next after networkEvent result =>
      obtain rfl := numbered_event_host result
      refine numbered.trans (send_to_clients_delivers transport networkEvent nowMs _ _ ?_)
      intro clientId member
      exact (tidy.enrolled clientId).mp member

theorem interest_event_delivers (clientId : ClientId) (nowMs : TimestampMs)
    (host : ServerNetworkHost) (tidy : Tidy host) (member : clientId ∈ host.clients)
    (event : DomainEvent) :
    Delivers nowMs host (host.sendInterestEvent transport clientId nowMs event) := by
  have numbered := number_event_delivers host nowMs
  unfold sendInterestEvent
  split
  · next after result =>
      obtain rfl := numbered_event_host result
      exact numbered
  · next after networkEvent result =>
      obtain rfl := numbered_event_host result
      exact numbered.trans (send_delivers transport _ clientId networkEvent nowMs false
        ((tidy.enrolled clientId).mp member) (by simp))

theorem follow_interest_delivers (hostOrder : HostOrder) (nowMs : TimestampMs)
    (host : ServerNetworkHost) (tidy : Tidy host) (clientId : ClientId)
    (member : clientId ∈ host.clients) (planned : SnapshotDTO) :
    Delivers nowMs host (host.followInterest transport hostOrder nowMs clientId planned) := by
  unfold followInterest
  split
  · exact Delivers.refl host
  · next state isState =>
      dsimp only
      let (tracker, frame) := state.interest.update hostOrder (.exitedEntities clientId) planned
      let tracked := (host.updateClient clientId fun state =>
        { state with interest := tracker }).countStats (countInterest frame)
      have books : booksOf tracked = booksOf host :=
        books_update_rest host clientId _ fun _ => rfl
      have advances : Advances host tracked := Advances.of_same rfl rfl books
      have delivered : Delivers nowMs host tracked :=
        .of_same rfl (congrArg Books.accounts books) rfl
      refine delivered.trans (loop_delivers _ _ tracked (advances.tidy tidy) ?_ ?_)
      · intro event _ between tidyBetween sameClients
        exact send_interest_advances transport clientId nowMs between tidyBetween
          (by rw [sameClients]; exact member) event
      · intro event _ between tidyBetween sameClients
        exact interest_event_delivers transport clientId nowMs between tidyBetween
          (by rw [sameClients]; exact member) event

theorem snapshot_turn_delivers (order : LoopOrder) (hostOrder : HostOrder) (nowMs : TimestampMs)
    (host : ServerNetworkHost) (tidy : Tidy host) (clientId : ClientId)
    (member : clientId ∈ host.clients) :
    Delivers nowMs host (host.snapshotTurn transport order hostOrder nowMs clientId) := by
  unfold snapshotTurn sendSnapshot send
  dsimp only
  generalize host.plannedSnapshot order clientId = planned
  generalize host.deltaBaseline clientId planned.snapshot = baseline
  have handed (accepted : Bool) :
      Delivers nowMs host (handedOver host clientId planned.snapshot baseline accepted) := by
    have trace := handed_over_trace host clientId planned.snapshot baseline accepted
    refine Delivers.quietly ?_ ?_ trace ?_
    · rfl
    · rfl
    intro happening isAdded
    rcases List.mem_pair.mp isAdded with rfl | rfl
    · exact ⟨by simp, by simp⟩
    · exact ⟨by simp, by simp⟩
  split
  · exact Delivers.of_same rfl rfl rfl
  · generalize transport _ _ = accepted
    cases accepted with
    | false => exact handed false
    | true =>
        have tidyHanded : Tidy (handedOver host clientId planned.snapshot baseline true) :=
          ⟨tidy.distinct, tidy.enrolled, tidy.keyed⟩
        have follow := follow_interest_delivers transport hostOrder nowMs _ tidyHanded clientId
          member planned.snapshot
        have kept (sent : ServerNetworkHost) :
            Delivers nowMs sent (sent.markSnapshotSent clientId nowMs) :=
          .of_same rfl (congrArg Books.accounts (books_update_rest sent clientId _ fun _ => rfl)) rfl
        refine (((handed true).trans follow).trans ?_).trans (kept _)
        exact Delivers.of_same rfl rfl rfl

theorem resend_to_client_delivers (hostOrder : HostOrder) (nowMs : TimestampMs)
    (host : ServerNetworkHost) (tidy : Tidy host) (clientId : ClientId) :
    Delivers nowMs host (host.resendToClient transport hostOrder nowMs clientId) := by
  unfold resendToClient
  split
  · exact Delivers.refl host
  · next state isState =>
      have has := has_account isState
      obtain ⟨distinct, due⟩ := due_pending state hostOrder (.pendingEvents clientId) nowMs
        host.config.reliableEventResendBaseIntervalMs host.config.reliableEventMaxSendCount
        (fun eventId entry => tidy.keyed clientId (accountOf state) eventId entry has)
      refine resend_events_relate transport (Delivers nowMs) Delivers.refl Delivers.trans clientId
        nowMs _ host.config ?_ _ distinct host rfl _ has due
      intro between account entry sameConfig isAccount pends isDue
      apply send_delivers transport between clientId entry.event nowMs true
      · rw [isAccount]
        rfl
      · intro _
        rw [sameConfig]
        exact ⟨entry, (pending_of_account isAccount _).trans pends, rfl, isDue⟩

/-- The loop over the clients in the resend pass. -/
theorem resend_loop_delivers (hostOrder : HostOrder) (nowMs : TimestampMs)
    (clients : List ClientId) (host : ServerNetworkHost) (tidy : Tidy host) :
    Delivers nowMs host (clients.foldl (resendToClient transport hostOrder nowMs) host) :=
  loop_delivers _ clients host tidy
    (fun clientId _ between tidyBetween _ =>
      resend_to_client_advances transport hostOrder nowMs between tidyBetween clientId)
    (fun clientId _ between tidyBetween _ =>
      resend_to_client_delivers transport hostOrder nowMs between tidyBetween clientId)

/-- The host when the resend pass of a tick begins. -/
def beforeResend (order : LoopOrder) (hostOrder : HostOrder) (host : ServerNetworkHost)
    (nowMs : TimestampMs) : ServerNetworkHost :=
  ((ticked order host).clients.foldl (snapshotTurn transport order hostOrder nowMs)
    (ticked order host)).broadcastReliableEvents transport
      (host.runtime.tick order).drainEvents.2 nowMs

theorem before_resend (order : LoopOrder) (hostOrder : HostOrder) (host : ServerNetworkHost)
    (tidy : Tidy host) (nowMs : TimestampMs) :
    Tidy (beforeResend transport order hostOrder host nowMs) ∧
      Delivers nowMs host (beforeResend transport order hostOrder host nowMs) := by
  have started : Advances host (ticked order host) := Advances.of_same rfl rfl rfl
  have sent := loop_advances (snapshotTurn transport order hostOrder nowMs) _ _
    (started.tidy tidy) fun clientId member between tidyBetween sameClients =>
      snapshot_turn_advances transport order hostOrder nowMs between tidyBetween clientId
        (by rw [sameClients]; exact member)
  have soFar := started.trans sent
  have broadcast := broadcast_advances transport _ (soFar.tidy tidy)
    (host.runtime.tick order).drainEvents.2 nowMs
  have quiet : Delivers nowMs host (ticked order host) := .of_same rfl rfl rfl
  have turned := loop_delivers (snapshotTurn transport order hostOrder nowMs) _ _
    (started.tidy tidy)
    (fun clientId member between tidyBetween sameClients =>
      snapshot_turn_advances transport order hostOrder nowMs between tidyBetween clientId
        (by rw [sameClients]; exact member))
    (fun clientId member between tidyBetween sameClients =>
      snapshot_turn_delivers transport order hostOrder nowMs between tidyBetween clientId
        (by rw [sameClients]; exact member))
  have told := loop_delivers (broadcastEvent transport nowMs)
    (host.runtime.tick order).drainEvents.2 _ (soFar.tidy tidy)
    (fun event _ between tidyBetween _ =>
      broadcast_event_advances transport nowMs between tidyBetween event)
    (fun event _ between tidyBetween _ =>
      broadcast_event_delivers transport nowMs between tidyBetween event)
  exact ⟨(soFar.trans broadcast).tidy tidy, (quiet.trans turned).trans told⟩

theorem tick_delivers (order : LoopOrder) (hostOrder : HostOrder) (host : ServerNetworkHost)
    (tidy : Tidy host) (nowMs : TimestampMs) :
    Delivers nowMs host (host.tickAndSendSnapshots transport order hostOrder nowMs) := by
  obtain ⟨tidyBefore, delivered⟩ := before_resend transport order hostOrder host tidy nowMs
  have resent := resend_loop_delivers transport hostOrder nowMs
    (hostOrder.arrange .resendingClients
      (beforeResend transport order hostOrder host nowMs).clientStateById.keys) _ tidyBefore
  exact (delivered.trans resent).trans (Delivers.of_same rfl rfl rfl)

end Sending

/-! Calls. -/

/-- What a call keeps of the order of the ledger. -/
structure Keeps (nowMs : TimestampMs) (before after : ServerNetworkHost) : Prop where
  config : after.config = before.config
  inOrder : ∃ added, after.trace = before.trace ++ added ∧ ∀ log : Log,
    log.map Prod.snd = before.trace → EveryEvent FirstOnce after.trace →
    InOrder (policyOf before) (ledgerOf before log) →
    InOrder (policyOf before)
      (ledgerOf after (log ++ added.map fun happening => (nowMs, happening)))

/-- Stamping what was added keeps the log in step with the record. -/
theorem stamped_trace {before added : Trace} {log : Log} (nowMs : TimestampMs)
    (inStep : log.map Prod.snd = before) :
    (log ++ added.map fun happening => (nowMs, happening)).map Prod.snd = before ++ added := by
  rw [List.map_append, inStep, List.map_map]
  congr 1
  exact List.map_id' added

/-- The base interval for which the longest delay fits 64 bits. -/
def SmallBase (host : ServerNetworkHost) : Prop :=
  host.config.reliableEventResendBaseIntervalMs.toNat < 2 ^ 59

namespace Keeps

variable {nowMs : TimestampMs}

theorem refl (host : ServerNetworkHost) : Keeps nowMs host host := by
  refine ⟨rfl, [], (List.append_nil _).symm, fun log _ _ inOrder => ?_⟩
  rw [List.map_nil, List.append_nil]
  exact inOrder

theorem trans {first second third : ServerNetworkHost} (left : Keeps nowMs first second)
    (right : Keeps nowMs second third) : Keeps nowMs first third := by
  obtain ⟨one, toSecond, leftOrder⟩ := left.inOrder
  obtain ⟨two, toThird, rightOrder⟩ := right.inOrder
  have policy : policyOf second = policyOf first := by
    unfold policyOf
    rw [left.config]
  refine ⟨right.config.trans left.config, one ++ two, ?_, fun log inStep once inOrder => ?_⟩
  · rw [toThird, toSecond, List.append_assoc]
  · have onceSecond : EveryEvent FirstOnce second.trace := by
      rw [toThird] at once
      exact every_event_prefix once
    have rest := rightOrder _ ((stamped_trace nowMs inStep).trans toSecond.symm) once
    rw [policy, List.append_assoc, ← List.map_append] at rest
    exact rest (leftOrder log inStep onceSecond inOrder)

theorem of_turns {before after : ServerNetworkHost} (small : SmallBase before)
    (config : after.config = before.config) {added : Trace}
    (trace : after.trace = before.trace ++ added)
    (turns : ∀ log, Turns (policyOf before) nowMs (ledgerOf before log)
      (ledgerOf after (log ++ added.map fun happening => (nowMs, happening)))) :
    Keeps nowMs before after := by
  refine ⟨config, added, trace, fun log inStep once inOrder => ?_⟩
  have smallPolicy : (policyOf before).baseIntervalMs.toNat < 2 ^ 59 := small
  apply turns_in_order smallPolicy (turns log) _ inOrder
  have whole : (ledgerOf after (log ++ added.map fun happening => (nowMs, happening))).trace =
      after.trace := (stamped_trace nowMs inStep).trans trace.symm
  rw [whole]
  exact once

/-- Nothing about events was recorded, and the pending events are the same. -/
theorem quietly {before after : ServerNetworkHost} (small : SmallBase before)
    (config : after.config = before.config)
    (pending : pendingOf (booksOf after) = pendingOf (booksOf before)) {added : Trace}
    (trace : after.trace = before.trace ++ added)
    (silent : ∀ happening ∈ added, NotAboutEvents happening) : Keeps nowMs before after := by
  apply of_turns small config trace
  intro log
  unfold ledgerOf
  rw [pending]
  exact .single (.quiet added silent)

theorem of_same {before after : ServerNetworkHost} (small : SmallBase before)
    (config : after.config = before.config)
    (pending : pendingOf (booksOf after) = pendingOf (booksOf before))
    (trace : after.trace = before.trace) : Keeps nowMs before after :=
  quietly small config pending (trace.trans (List.append_nil _).symm) (by simp)

theorem smallBase {before after : ServerNetworkHost} (keeps : Keeps nowMs before after)
    (small : SmallBase before) : SmallBase after := by
  unfold SmallBase
  rw [keeps.config]
  exact small

end Keeps

/-- The pending events of a client are those of its state. -/
theorem pending_of_states (host : ServerNetworkHost) (clientId : ClientId)
    (eventId : NetworkEventId) :
    pendingOf (booksOf host) clientId eventId =
      (host.clientStateById[clientId]?).bind fun state =>
        state.pendingReliableEvents[eventId]? := by
  unfold pendingOf booksOf
  dsimp only
  cases host.clientStateById[clientId]? with
  | none => rfl
  | some state => rfl

theorem pending_of_settled {before after : ServerNetworkHost} (same : Settled before after) :
    pendingOf (booksOf after) = pendingOf (booksOf before) := by
  funext clientId eventId
  rw [pending_of_states, pending_of_states, same.states]

/-- A client that joins has nothing pending. -/
theorem pending_of_register (host : ServerNetworkHost) (clientId : ClientId) :
    pendingOf (booksOf (host.registerClient clientId)) = pendingOf (booksOf host) := by
  funext other eventId
  rw [pending_of_states, pending_of_states]
  unfold registerClient
  dsimp only
  rw [Std.ExtTreeMap.getElem?_insertIfNew]
  split
  · next new =>
      obtain ⟨same, absent⟩ := new
      rw [Std.LawfulEqCmp.compare_eq_iff_eq.mp same, Std.ExtTreeMap.mem_iff_isSome_getElem?,
        Option.not_isSome_iff_eq_none] at absent
      rw [absent]
      rfl
  · rfl

theorem envelope_keeps (transport : Transport) (host : ServerNetworkHost) (small : SmallBase host)
    (envelope : NetworkEnvelope) (nowMs : TimestampMs) :
    Keeps nowMs host (host.handleEnvelope transport envelope) := by
  have turned := envelope_turn transport host envelope
  generalize host.handleEnvelope transport envelope = after at turned
  cases turned with
  | kept same trace => exact .of_same small same.config (pending_of_settled same) trace
  | @enrolled connected clientId same trace new =>
      refine .of_same small same.config ?_ trace
      exact (pending_of_register connected clientId).trans (pending_of_settled same)
  | snapshotAcked clientId snapshotId state has newer =>
      refine .quietly small rfl ?_ rfl (by simp [NotAboutEvents])
      have kept : accountOf (state.acknowledgeSnapshot snapshotId).1 =
          { accountOf state with acked := (state.acknowledgeSnapshot snapshotId).1.ackedSnapshot } := by
        unfold ServerClientReplicationState.acknowledgeSnapshot
        split <;> rfl
      have books := books_update_client host clientId
        (fun state => (state.acknowledgeSnapshot snapshotId).1) has
      funext other eventId
      refine (congrArg (pendingOf · other eventId) books).trans ?_
      rw [pending_of_set]
      split
      · next same =>
          rw [same, kept, pending_of_account (has_account has)]
      · rfl
  | eventAcked clientId eventId state has pending =>
      -- The acknowledged event is the only entry of the ledger that goes.
      have present : eventId ∈ state.pendingReliableEvents := by
        unfold acknowledgeReliableEvent at pending
        simpa using pending
      obtain ⟨entry, pends⟩ := Option.isSome_iff_exists.mp
        (Std.ExtTreeMap.mem_iff_isSome_getElem?.mp present)
      refine ⟨rfl, [.eventAcked clientId eventId], rfl, fun log inStep once inOrder => ?_⟩
      have same : ledgerOf (((host.updateClient clientId fun state =>
            (state.acknowledgeReliableEvent eventId).1).record
          (.eventAcked clientId eventId)).countStats fun stats =>
            { stats with reliableEventAcksReceived := stats.reliableEventAcksReceived + 1 })
          (log ++ [(nowMs, .eventAcked clientId eventId)]) =
          (ledgerOf host log).acknowledge nowMs clientId eventId := by
        refine Ledger.ext ?_ ?_
        · rfl
        funext other otherId
        refine (pending_of_states _ other otherId).trans ?_
        unfold Ledger.acknowledge ledgerOf Ledger.file
        dsimp only [Ledger.write_pending]
        rw [pending_of_states]
        unfold updateClient
        dsimp only [record, countStats]
        rw [get_modify]
        by_cases mine : clientId = other
        · subst mine
          rw [if_pos rfl, has]
          unfold acknowledgeReliableEvent
          dsimp only [Option.map_some, Option.bind_some]
          rw [get_erase]
          simp only [true_and, eq_comm]
        · rw [if_neg mine, if_neg fun same => mine same.1.symm]
      rw [List.map_singleton, same]
      have isPending : (ledgerOf host log).pending clientId eventId = some entry := by
        refine (pending_of_states host clientId eventId).trans ?_
        rw [has]
        exact pends
      exact acknowledge_in_order isPending inOrder
  | answered clientId response accepted same trace =>
      exact .quietly small same.config (pending_of_settled same) trace (by simp [NotAboutEvents])

theorem step_keeps (transport : Transport) (host : ServerNetworkHost) (tidy : Tidy host)
    (small : SmallBase host) (call : HostCall) (lastMs : TimestampMs) :
    Keeps ((tickTime call).getD lastMs) host (hostStep transport host call) := by
  cases call with
  | connectSimulationOnlyClient clientId nowMs => exact .of_same small rfl rfl rfl
  | pumpClientMessages polled =>
      have all : SmallBase (host.pumpClientMessages transport polled) ∧
          Keeps lastMs host (host.pumpClientMessages transport polled) := by
        apply Runs.run_invariant (handleEnvelope transport)
          (fun between => SmallBase between ∧ Keeps lastMs host between)
        · rintro between envelope ⟨smallBetween, kept⟩
          have next := envelope_keeps transport between smallBetween envelope lastMs
          exact ⟨next.smallBase smallBetween, kept.trans next⟩
        · exact ⟨small, Keeps.refl host⟩
      exact all.2
  | tickAndSendSnapshots order hostOrder nowMs =>
      have delivered := tick_delivers transport order hostOrder host tidy nowMs
      obtain ⟨added, trace, turns⟩ := delivered.turns
      exact .of_turns small delivered.config trace turns
  | drainEvents => exact .of_same small rfl rfl rfl
  | buildSnapshotFor => exact .quietly small rfl rfl rfl (by simp [NotAboutEvents])
  | changeRuntime runtime => exact .of_same small rfl rfl rfl

/-- Before the ids wrap no id is sent first twice to a client. -/
theorem numbered_once {books : Books} (numbered : Numbered books)
    (few : eventsNumbered books.trace < 2 ^ 32) : EveryEvent FirstOnce books.trace := by
  obtain ⟨count, numbers, inRange⟩ := numbered.few_ids few
  rintro earlier _ later split clientId event accepted rfl other answer sameId member
  obtain ⟨start, between, rfl⟩ := List.append_of_mem member
  have whole : books.trace = start ++ .handed clientId (.event other false) answer ::
      (between ++ .handed clientId (.event event false) accepted :: later) := by
    rw [split, List.append_assoc, List.cons_append]
  exact first_send_once numbers inRange numbered.announced whole sameId.symm
    (List.mem_append_right _ List.mem_cons_self)

theorem run_once (transport : Transport) (config : ServerNetworkHostConfig)
    (calls : List HostCall) (few : eventsNumbered (hostRun transport config calls).trace < 2 ^ 32) :
    EveryEvent FirstOnce (hostRun transport config calls).trace :=
  numbered_once (run_unwrapped transport config calls).numbered few

/-- The state of a clock run. -/
structure Timely (config : ServerNetworkHostConfig) (clock : Clock) : Prop where
  tidy : Tidy clock.host
  sameConfig : clock.host.config = config
  inStep : clock.log.map Prod.snd = clock.host.trace
  inOrder : EveryEvent FirstOnce clock.host.trace →
    InOrder (policyOf clock.host) (ledgerOf clock.host clock.log)

theorem clock_step_timely {config : ServerNetworkHostConfig}
    (small : config.reliableEventResendBaseIntervalMs.toNat < 2 ^ 59) (transport : Transport)
    (clock : Clock) (call : HostCall) (timely : Timely config clock) :
    Timely config (clockStep transport clock call) := by
  have smallBase : SmallBase clock.host := by
    unfold SmallBase
    rw [timely.sameConfig]
    exact small
  have keeps := step_keeps transport clock.host timely.tidy smallBase call clock.nowMs
  obtain ⟨added, trace, inOrder⟩ := keeps.inOrder
  have log : (clockStep transport clock call).log = clock.log ++
      added.map fun happening => ((tickTime call).getD clock.nowMs, happening) := by
    unfold clockStep
    dsimp only
    rw [trace, List.drop_left]
  have policy : policyOf (clockStep transport clock call).host = policyOf clock.host := by
    have sameConfig : (clockStep transport clock call).host.config = clock.host.config :=
      keeps.config
    unfold policyOf
    rw [sameConfig]
  refine ⟨(host_step_progress transport clock.host timely.tidy call).tidy,
    keeps.config.trans timely.sameConfig, ?_, fun once => ?_⟩
  · rw [log]
    exact (stamped_trace _ timely.inStep).trans trace.symm
  · have before : EveryEvent FirstOnce clock.host.trace := by
      have grown : EveryEvent FirstOnce (hostStep transport clock.host call).trace := once
      rw [trace] at grown
      exact every_event_prefix grown
    rw [policy, log]
    exact inOrder clock.log timely.inStep once (timely.inOrder before)

theorem clock_run_timely (transport : Transport) (config : ServerNetworkHostConfig)
    (small : config.reliableEventResendBaseIntervalMs.toNat < 2 ^ 59) (calls : List HostCall) :
    Timely config (clockRun transport config calls) := by
  apply Runs.run_invariant (clockStep transport) (Timely config)
  · exact fun clock call timely => clock_step_timely small transport clock call timely
  · exact ⟨new_tidy config, rfl, rfl, fun _ => start_in_order _⟩

/-! The resend pass. -/

section Sending

variable (transport : Transport)

/-- The loop over the due events hands over each of them. -/
theorem resend_events_hand (clientId : ClientId) (nowMs : TimestampMs)
    (events : List NetworkEventDTO) (host : ServerNetworkHost) :
    ∃ added, (events.foldl (fun host event =>
        host.sendReliableEvent transport clientId event nowMs true) host).trace =
      host.trace ++ added ∧
    ∀ event ∈ events, ∃ accepted,
      Happening.handed clientId (.event event true) accepted ∈ added := by
  induction events generalizing host with
  | nil => exact ⟨[], (List.append_nil _).symm, by simp⟩
  | cons event rest ih =>
      obtain ⟨accepted, handed⟩ := send_event_hands transport host clientId event nowMs true
      obtain ⟨later, grown, all⟩ := ih (host.sendReliableEvent transport clientId event nowMs true)
      refine ⟨.handed clientId (.event event true) accepted :: later, ?_, ?_⟩
      · rw [List.foldl_cons, grown, handed, List.append_assoc, List.singleton_append]
      · intro other member
        rcases List.mem_cons.mp member with rfl | inRest
        · exact ⟨accepted, List.mem_cons_self⟩
        · obtain ⟨answer, isHanded⟩ := all other inRest
          exact ⟨answer, List.mem_cons_of_mem _ isHanded⟩

theorem resend_to_client_hands (hostOrder : HostOrder) (nowMs : TimestampMs)
    (host : ServerNetworkHost) {clientId : ClientId} {entry : PendingReliableEvent}
    (pends : pendingOf (booksOf host) clientId entry.event.eventId = some entry)
    (due : dueForResend nowMs host.config.reliableEventResendBaseIntervalMs
      host.config.reliableEventMaxSendCount entry = true) :
    ∃ added accepted, (host.resendToClient transport hostOrder nowMs clientId).trace =
      host.trace ++ added ∧
        Happening.handed clientId (.event entry.event true) accepted ∈ added := by
  rw [pending_of_states] at pends
  obtain ⟨state, isState, isEntry⟩ := Option.bind_eq_some_iff.mp pends
  unfold resendToClient
  rw [isState]
  dsimp only
  obtain ⟨added, trace, all⟩ := resend_events_hand transport clientId nowMs
    (state.reliableEventsDueForResend hostOrder (.pendingEvents clientId) nowMs
      host.config.reliableEventResendBaseIntervalMs host.config.reliableEventMaxSendCount) host
  have isDue : entry.event ∈ state.reliableEventsDueForResend hostOrder (.pendingEvents clientId)
      nowMs host.config.reliableEventResendBaseIntervalMs
      host.config.reliableEventMaxSendCount := by
    unfold reliableEventsDueForResend
    refine List.mem_map.mpr ⟨(entry.event.eventId, entry), List.mem_filter.mpr ⟨?_, due⟩, rfl⟩
    rw [IterationOrder.mem_arrange, Std.ExtTreeMap.mem_toList_iff_getElem?_eq_some]
    exact isEntry
  obtain ⟨accepted, handed⟩ := all entry.event isDue
  exact ⟨added, accepted, trace, handed⟩

/-- A tick attempts every event that is pending and due when it starts. -/
theorem tick_attempts (order : LoopOrder) (hostOrder : HostOrder) (host : ServerNetworkHost)
    (tidy : Tidy host) (small : SmallBase host) (nowMs : TimestampMs) (log : Log)
    (inStep : log.map Prod.snd = host.trace)
    (once : EveryEvent FirstOnce
      (host.tickAndSendSnapshots transport order hostOrder nowMs).trace)
    (inOrder : InOrder (policyOf host) (ledgerOf host log)) {clientId : ClientId}
    {entry : PendingReliableEvent}
    (pends : pendingOf (booksOf host) clientId entry.event.eventId = some entry)
    (due : dueForResend nowMs host.config.reliableEventResendBaseIntervalMs
      host.config.reliableEventMaxSendCount entry = true) :
    ∃ accepted, Happening.handed clientId (.event entry.event true) accepted ∈
      (host.tickAndSendSnapshots transport order hostOrder nowMs).trace.drop
        host.trace.length := by
  obtain ⟨tidyMiddle, toMiddle⟩ := before_resend transport order hostOrder host tidy nowMs
  generalize isMiddle : beforeResend transport order hostOrder host nowMs = middle at *
  have known : clientId ∈ hostOrder.arrange .resendingClients middle.clientStateById.keys := by
    have account := toMiddle.accounts clientId
    rw [pending_of_states] at pends
    obtain ⟨state, isState, _⟩ := Option.bind_eq_some_iff.mp pends
    rw [has_account isState, Option.isSome_some] at account
    rw [IterationOrder.mem_arrange, Std.ExtTreeMap.mem_keys,
      Std.ExtTreeMap.mem_iff_isSome_getElem?]
    exact (Option.isSome_map).symm.trans account
  -- The pass up to the client, its turn, and the rest of the pass.
  obtain ⟨first, later, isSplit⟩ := List.append_of_mem known
  have toTurn := toMiddle.trans
    (resend_loop_delivers transport hostOrder nowMs first middle tidyMiddle)
  have tidyTurn := (loop_advances (resendToClient transport hostOrder nowMs) first middle
    tidyMiddle fun other _ between tidyBetween _ =>
      resend_to_client_advances transport hostOrder nowMs between tidyBetween other).tidy tidyMiddle
  generalize isTurn : first.foldl (resendToClient transport hostOrder nowMs) middle = atTurn at *
  have afterTurn := resend_loop_delivers transport hostOrder nowMs later
    (atTurn.resendToClient transport hostOrder nowMs clientId)
    ((resend_to_client_advances transport hostOrder nowMs atTurn tidyTurn clientId).tidy tidyTurn)
  have isTick : (host.tickAndSendSnapshots transport order hostOrder nowMs).trace =
      (later.foldl (resendToClient transport hostOrder nowMs)
        (atTurn.resendToClient transport hostOrder nowMs clientId)).trace := by
    rw [← isTurn, ← List.foldl_cons, ← List.foldl_append, ← isSplit, ← isMiddle]
    rfl
  obtain ⟨added, trace, turns⟩ := toTurn.turns
  obtain ⟨mine, mineTrace, _⟩ :=
    (resend_to_client_delivers transport hostOrder nowMs atTurn tidyTurn clientId).turns
  obtain ⟨rest, restTrace, _⟩ := afterTurn.turns
  have whole : (host.tickAndSendSnapshots transport order hostOrder nowMs).trace =
      host.trace ++ (added ++ (mine ++ rest)) := by
    rw [isTick, restTrace, mineTrace, trace]
    simp
  have onceTurn : EveryEvent FirstOnce
      (ledgerOf atTurn (log ++ added.map fun happening => (nowMs, happening))).trace := by
    have sameTrace : (ledgerOf atTurn (log ++ added.map fun happening =>
        (nowMs, happening))).trace = host.trace ++ added := stamped_trace nowMs inStep
    rw [whole, ← List.append_assoc] at once
    rw [sameTrace]
    exact every_event_prefix once
  have smallPolicy : (policyOf host).baseIntervalMs.toNat < 2 ^ 59 := small
  rw [whole, List.drop_left]
  rcases turns_keep_pending smallPolicy (turns log) onceTurn inOrder pends with
    stays | ⟨since, accepted, grown, sent⟩
  · have sameConfig := toTurn.config
    obtain ⟨found, accepted, foundTrace, handed⟩ := resend_to_client_hands transport hostOrder
      nowMs atTurn stays (by rw [sameConfig]; exact due)
    have same : found = mine := List.append_cancel_left (foundTrace.symm.trans mineTrace)
    rw [same] at handed
    exact ⟨accepted, List.mem_append_right _ (List.mem_append_left _ handed)⟩
  · have same : added.map (fun happening => (nowMs, happening)) = since :=
      List.append_cancel_left grown
    rw [← same] at sent
    obtain ⟨happening, isAdded, isSent⟩ := List.mem_map.mp sent
    cases isSent
    exact ⟨accepted, List.mem_append_left _ isAdded⟩

end Sending

/-! Awaited events. -/

/-- Events that were sent first under one id are one event. -/
theorem first_sends_same {trace : Trace} (once : EveryEvent FirstOnce trace) {clientId : ClientId}
    {event other : NetworkEventDTO} {accepted answer : Bool}
    (isFirst : Happening.handed clientId (.event event false) accepted ∈ trace)
    (isOther : Happening.handed clientId (.event other false) answer ∈ trace)
    (sameId : other.eventId = event.eventId) : other = event := by
  obtain ⟨start, rest, rfl⟩ := List.append_of_mem isFirst
  rcases List.mem_append.mp isOther with before | after
  · exact absurd before (once start _ rest rfl clientId event accepted rfl other answer sameId)
  · rcases List.mem_cons.mp after with same | after
    · cases same
      rfl
    · obtain ⟨between, later, rfl⟩ := List.append_of_mem after
      have regrouped : start ++ .handed clientId (.event event false) accepted ::
          (between ++ .handed clientId (.event other false) answer :: later) =
          (start ++ .handed clientId (.event event false) accepted :: between) ++
            .handed clientId (.event other false) answer :: later := by simp
      exact absurd (by simp)
        (once _ _ later regrouped clientId other answer rfl event accepted sameId.symm)

/-- An awaited event is pending, as the event it was created as. -/
theorem awaited_pending (transport : Transport) (config : ServerNetworkHostConfig)
    (small : config.reliableEventResendBaseIntervalMs.toNat < 2 ^ 59) (calls : List HostCall)
    (few : eventsNumbered (hostRun transport config calls).trace < 2 ^ 32) {clientId : ClientId}
    {event : NetworkEventDTO}
    (awaited : Awaited (hostRun transport config calls).trace clientId event) :
    ∃ entry, pendingOf (booksOf (hostRun transport config calls)) clientId event.eventId =
      some entry ∧ entry.event = event := by
  have once := run_once transport config calls few
  have timely := clock_run_timely transport config small calls
  have unwrapped := run_unwrapped transport config calls
  have isHost := clock_run_host transport config calls
  have inOrder := timely.inOrder (by rw [isHost]; exact once)
  have inStep := timely.inStep
  rw [isHost] at inOrder inStep
  have slot := inOrder.slots clientId event.eventId
  have isTrace : (ledgerOf (hostRun transport config calls)
      (clockRun transport config calls).log).trace = (hostRun transport config calls).trace := inStep
  obtain ⟨accepted, first⟩ := awaited_first unwrapped.resent awaited
  obtain ⟨earlier, _, later, split, ⟨isResend, rfl⟩, unackedLater⟩ := awaited
  have taken : Happening.handed clientId (.event event isResend) true ∈
      (hostRun transport config calls).trace := by
    rw [split]
    exact List.mem_append_right _ List.mem_cons_self
  -- Were it acknowledged, then before this sending or after it.
  have unacked : Happening.eventAcked clientId event.eventId ∉
      (hostRun transport config calls).trace := by
    have silent := inOrder.silent
    rw [isTrace] at silent
    intro acked
    rw [split] at acked
    rcases List.mem_append.mp acked with before | after
    · exact silent earlier _ later split clientId event isResend true rfl before
    · rcases List.mem_cons.mp after with same | after
      · cases same
      · exact unackedLater _ after rfl
  have sent : sendTimes clientId event.eventId (clockRun transport config calls).log ≠ [] := by
    rw [← inStep] at taken
    obtain ⟨⟨atMs, happening⟩, isLogged, rfl⟩ := List.mem_map.mp taken
    apply List.ne_nil_of_mem
    exact List.mem_filterMap.mpr ⟨_, isLogged, if_pos ⟨rfl, rfl⟩⟩
  obtain ⟨entry, pends⟩ := Option.isSome_iff_exists.mp
    (slot.held sent (by rw [isTrace]; exact unacked))
  refine ⟨entry, pends, ?_⟩
  exact first_sends_same once first (unwrapped.filed.taken clientId event.eventId entry pends)
    (unwrapped.filed.own clientId event.eventId entry pends)

/-! The result. -/

/-- The record of a run begins with that of the run so far. -/
theorem host_run_grows (transport : Transport) (config : ServerNetworkHostConfig)
    (small : config.reliableEventResendBaseIntervalMs.toNat < 2 ^ 59)
    (first second : List HostCall) :
    ∃ added, (hostRun transport config (first ++ second)).trace =
      (hostRun transport config first).trace ++ added := by
  have grows (clock : Clock) : ∃ added,
      (Runs.run (clockStep transport) clock second).log = clock.log ++ added := by
    apply Runs.run_relates (clockStep transport)
      (fun before after => ∃ added, after.log = before.log ++ added)
    · exact fun clock => ⟨[], (List.append_nil _).symm⟩
    · rintro one two three ⟨left, toTwo⟩ ⟨right, toThree⟩
      exact ⟨left ++ right, by rw [toThree, toTwo, List.append_assoc]⟩
    · exact fun clock call => ⟨_, rfl⟩
  obtain ⟨added, log⟩ := grows (clockRun transport config first)
  have whole : (clockRun transport config (first ++ second)).log =
      (clockRun transport config first).log ++ added := by
    rw [← log]
    exact congrArg Clock.log (Runs.run_append (clockStep transport) _ first second)
  have isWhole := (clock_run_timely transport config small (first ++ second)).inStep
  have isFirst := (clock_run_timely transport config small first).inStep
  rw [clock_run_host] at isWhole isFirst
  exact ⟨added.map Prod.snd, by rw [← isWhole, ← isFirst, whole, List.map_append]⟩

/-- After an accepted acknowledgement the event is not sent to the client. -/
def StopsAfterAck (trace : Trace) (clientId : ClientId) (eventId : NetworkEventId) : Prop :=
  ∀ earlier later, trace = earlier ++ .eventAcked clientId eventId :: later →
    ∀ event isResend accepted, event.eventId = eventId →
      Happening.handed clientId (.event event isResend) accepted ∉ later

/-- A tick that finds the event taken and unacknowledged, below the cap and at
its due time, attempts it. -/
def AttemptsWhenDue (transport : Transport) (config : ServerNetworkHostConfig)
    (earlier : List HostCall) (order : LoopOrder) (hostOrder : HostOrder) (nowMs : TimestampMs)
    (clientId : ClientId) (event : NetworkEventDTO) : Prop :=
  let host := hostRun transport config earlier
  let times := runSendTimes transport config earlier clientId event.eventId
  Awaited host.trace clientId event →
  (config.reliableEventMaxSendCount ≠ 0 →
    times.length < config.reliableEventMaxSendCount.toNat) →
  (∀ lastMs, times.getLast? = some lastMs →
    dueMs config.reliableEventResendBaseIntervalMs times.length lastMs ≤ nowMs.toNat) →
  ∃ accepted, Happening.handed clientId (.event event true) accepted ∈
    (host.tickAndSendSnapshots transport order hostOrder nowMs).trace.drop host.trace.length

theorem stops_after_ack {trace : Trace} (silent : EveryEvent NeverAfterAck trace)
    (clientId : ClientId) (eventId : NetworkEventId) : StopsAfterAck trace clientId eventId := by
  intro earlier later split event isResend accepted same handed
  obtain ⟨between, rest, rfl⟩ := List.append_of_mem handed
  have regrouped : trace = (earlier ++ .eventAcked clientId eventId :: between) ++
      .handed clientId (.event event isResend) accepted :: rest := by
    rw [split, List.append_assoc, List.cons_append]
  apply silent _ _ rest regrouped clientId event isResend accepted rfl
  rw [same]
  exact List.mem_append_right _ List.mem_cons_self

/-- A run so far has numbered no more events than the whole run. -/
theorem few_earlier (transport : Transport) (config : ServerNetworkHostConfig)
    (small : config.reliableEventResendBaseIntervalMs.toNat < 2 ^ 59)
    {first second : List HostCall}
    (few : eventsNumbered (hostRun transport config (first ++ second)).trace < 2 ^ 32) :
    eventsNumbered (hostRun transport config first).trace < 2 ^ 32 := by
  obtain ⟨added, grown⟩ := host_run_grows transport config small first second
  unfold eventsNumbered at few ⊢
  rw [grown, List.filterMap_append, List.length_append] at few
  exact Nat.lt_of_le_of_lt (Nat.le_add_right _ _) few

theorem attempts_when_due (transport : Transport) (config : ServerNetworkHostConfig)
    (small : config.reliableEventResendBaseIntervalMs.toNat < 2 ^ 59) (earlier : List HostCall)
    (order : LoopOrder) (hostOrder : HostOrder) (nowMs : TimestampMs)
    (few : eventsNumbered (hostRun transport config
      (earlier ++ [.tickAndSendSnapshots order hostOrder nowMs])).trace < 2 ^ 32)
    (clientId : ClientId) (event : NetworkEventDTO) :
    AttemptsWhenDue transport config earlier order hostOrder nowMs clientId event := by
  intro awaited below reached
  have isTick : hostRun transport config
      (earlier ++ [.tickAndSendSnapshots order hostOrder nowMs]) =
      (hostRun transport config earlier).tickAndSendSnapshots transport order hostOrder nowMs :=
    Runs.run_append _ _ _ _
  have once := run_once transport config _ few
  rw [isTick] at once
  have fewBefore := few_earlier transport config small few
  have timely := clock_run_timely transport config small earlier
  have isHost := clock_run_host transport config earlier
  have inOrder := timely.inOrder (by rw [isHost]; exact run_once transport config earlier fewBefore)
  have inStep := timely.inStep
  have tidy := timely.tidy
  have sameConfig := timely.sameConfig
  rw [isHost] at inOrder inStep tidy sameConfig
  obtain ⟨entry, pends, rfl⟩ := awaited_pending transport config small earlier fewBefore awaited
  obtain ⟨counted, last⟩ := (inOrder.slots clientId entry.event.eventId).counted entry pends
  -- The counter is the number of sendings modulo 2 ^ 32, so it is below the cap as they are.
  have isBelow : belowCap config.reliableEventMaxSendCount entry = true := by
    have count : entry.sendCount.toNat ≤
        (runSendTimes transport config earlier clientId entry.event.eventId).length := by
      rw [counted, UInt32.toNat_ofNat']
      exact Nat.mod_le _ _
    by_cases noCap : config.reliableEventMaxSendCount = 0
    · simp [belowCap, noCap]
    · have less : entry.sendCount < config.reliableEventMaxSendCount := by
        rw [UInt32.lt_iff_toNat_lt]
        exact Nat.lt_of_le_of_lt count (below noCap)
      simp [belowCap, noCap, less]
  have due := reached_due small counted isBelow (reached _ last)
  apply tick_attempts transport order hostOrder _ tidy _ nowMs _ inStep once inOrder pends
  · rw [sameConfig]
    exact due
  · unfold SmallBase
    rw [sameConfig]
    exact small

/-- Before the ids wrap every event is sent at most as often as the cap allows, is
spaced by the backoff where its due time fits, stops at its acknowledgement and
is attempted in every tick that finds it due. -/
theorem resends_back_off (transport : Transport) (config : ServerNetworkHostConfig)
    (calls : List HostCall) (clientId : ClientId) (eventId : NetworkEventId)
    (few : eventsNumbered (hostRun transport config calls).trace < 2 ^ 32)
    (small : config.reliableEventResendBaseIntervalMs.toNat < 2 ^ 59) :
    (config.reliableEventMaxSendCount ≠ 0 →
      (runSendTimes transport config calls clientId eventId).length ≤
        config.reliableEventMaxSendCount.toNat) ∧
    Spaced config.reliableEventResendBaseIntervalMs
      (runSendTimes transport config calls clientId eventId) ∧
    StopsAfterAck (hostRun transport config calls).trace clientId eventId ∧
    ∀ earlier order hostOrder nowMs later,
      calls = earlier ++ .tickAndSendSnapshots order hostOrder nowMs :: later →
      ∀ event, event.eventId = eventId →
        AttemptsWhenDue transport config earlier order hostOrder nowMs clientId event := by
  have timely := clock_run_timely transport config small calls
  have isHost := clock_run_host transport config calls
  have inOrder := timely.inOrder (by rw [isHost]; exact run_once transport config calls few)
  have sameConfig := timely.sameConfig
  have slot := inOrder.slots clientId eventId
  have isTrace : (ledgerOf (clockRun transport config calls).host
      (clockRun transport config calls).log).trace = (hostRun transport config calls).trace :=
    timely.inStep.trans (congrArg ServerNetworkHost.trace isHost)
  have silent := inOrder.silent
  rw [isTrace] at silent
  refine ⟨?_, ?_, stops_after_ack silent clientId eventId, ?_⟩
  · have capped := slot.capped
    unfold policyOf at capped
    rw [sameConfig] at capped
    exact capped
  · have spaced := slot.spaced
    unfold policyOf at spaced
    rw [sameConfig] at spaced
    exact spaced
  · intro earlier order hostOrder nowMs later isSplit event _
    have regrouped : calls = (earlier ++ [.tickAndSendSnapshots order hostOrder nowMs]) ++ later := by
      rw [isSplit, List.append_assoc, List.singleton_append]
    rw [regrouped] at few
    exact attempts_when_due transport config small earlier order hostOrder nowMs
      (few_earlier transport config small few) clientId event

/-- Client 1 joins, its spawn is told, and ticks follow at the times its resends
are due. -/
def backoffCalls : List HostCall :=
  [joinCall 1, .tickAndSendSnapshots .stored .stored 16, .tickAndSendSnapshots .stored .stored 266,
   .tickAndSendSnapshots .stored .stored 766]

theorem resends_back_off_twice :
    runSendTimes (fun _ _ => true) {} backoffCalls 1 2 = [16, 266, 766] ∧
    Spaced 250 [16, 266, 766] ∧
    AttemptsWhenDue (fun _ _ => true) {} (backoffCalls.take 3) .stored .stored 766 1 spawnEvent := by
  have times : runSendTimes (fun _ _ => true) {} backoffCalls 1 2 = [16, 266, 766] := by
    decide +kernel
  have few : eventsNumbered (hostRun (fun _ _ => true) {} backoffCalls).trace = 2 := by
    decide +kernel
  obtain ⟨_, spaced, _, attempts⟩ := resends_back_off (fun _ _ => true) {} backoffCalls 1 2
    (by rw [few]; decide) (by decide)
  rw [times] at spaced
  exact ⟨times, spaced, attempts (backoffCalls.take 3) .stored .stored 766 [] rfl spawnEvent rfl⟩

/-- Each send but the first waits out its delay, in numbers of any size. -/
def Punctual (baseIntervalMs : TimestampMs) (times : List TimestampMs) : Prop :=
  ∀ sent earlier later, 1 ≤ sent → times[sent - 1]? = some earlier →
    times[sent]? = some later →
    earlier.toNat + baseIntervalMs.toNat * 2 ^ min (sent - 1) 4 ≤ later.toNat

/-- Spaced sends are punctual while neither the count nor a due time overflows. -/
theorem spaced_punctual {baseIntervalMs : TimestampMs} {times : List TimestampMs}
    (spaced : Spaced baseIntervalMs times) (few : times.length ≤ 2 ^ 32)
    (fits : ∀ sentMs ∈ times, sentMs.toNat + baseIntervalMs.toNat * 2 ^ 4 < 2 ^ 64) :
    Punctual baseIntervalMs times := by
  intro sent earlier later positive isEarlier isLater
  have inside : sent < times.length := (List.getElem?_eq_some_iff.mp isLater).1
  have shift : backoffShift sent = min (sent - 1) 4 := by
    unfold backoffShift
    rw [Nat.mod_eq_of_lt (Nat.lt_of_lt_of_le inside few)]
  have delay : baseIntervalMs.toNat * 2 ^ backoffShift sent ≤ baseIntervalMs.toNat * 2 ^ 4 :=
    Nat.mul_le_mul_left _ (Nat.pow_le_pow_right (by decide) (Nat.min_le_right _ _))
  have room := fits earlier (List.mem_of_getElem? isEarlier)
  have due := spaced sent earlier later positive isEarlier isLater (by unfold dueMs; omega)
  unfold dueMs at due
  rwa [shift] at due

/-- A tick at the end of time: the due time of the spawn it sends wraps around,
and the resend pass of the same tick sends the spawn again. -/
theorem resent_too_early :
    ¬ ∀ transport config calls clientId eventId,
      eventsNumbered (hostRun transport config calls).trace < 2 ^ 32 →
      config.reliableEventResendBaseIntervalMs.toNat < 2 ^ 59 →
      (calls.filterMap tickTime).Pairwise (· ≤ ·) →
      Punctual config.reliableEventResendBaseIntervalMs
        (runSendTimes transport config calls clientId eventId) := by
  intro claimed
  have punctual := claimed (fun _ _ => true) {}
    [joinCall 1, .tickAndSendSnapshots .stored .stored 18446744073709551615] 1 2
    (by decide +kernel) (by decide) (by decide)
  have times : runSendTimes (fun _ _ => true) {}
      [joinCall 1, .tickAndSendSnapshots .stored .stored 18446744073709551615] 1 2 =
      [18446744073709551615, 18446744073709551615] := by decide +kernel
  rw [times] at punctual
  exact absurd (punctual 1 _ _ (by decide) rfl rfl) (by decide)

end Brawololo.BoundedBackoff
