import Brawololo.ReliableEvents
import Brawololo.ClientProtocolPump

/-!
A network host and the session of one of its clients, with a network between
them that delays and loses envelopes. The pump surfaces every copy of an event
that reaches it, so an event is surfaced as often as a copy of it was taken and
delivered; the host sends no copy after it has accepted an acknowledgement, and
none above its send cap.
-/

namespace Brawololo.EventSurfacing

open GameTypes NetworkEvents NetworkProtocol Serialization Simulation Server
open ServerClientReplicationState ServerNetworkHost Client DeliveryBooks HostBookkeeping
open HostTurns Histories ReliableEvents

/-! The system. -/

/-- `toClient` is what the transport took for the client and has neither
delivered nor lost. -/
structure Link where
  host : ServerNetworkHost
  client : PumpState
  toClient : List NetworkEnvelope := []

inductive LinkCall where
  /-- A call on the host. What it polls is arbitrary, so that acknowledgements
  may be late, lost or repeated, and other clients may send anything. -/
  | host (call : HostCall)
  /-- The client polls an envelope, wherever it stands in the queue. -/
  | deliver (index : Nat) (localReceiveTimeMs : TimestampMs) (ackAccepted : Bool)
      (order : LoopOrder)
  | lose (index : Nat)
  | session (call : LocalCall)
  | drainEvents

/-- The envelope that a `Send` put on the way to the client. -/
def takenFor (clientId : ClientId) : Happening → Option NetworkEnvelope
  | .handed peer message true => if peer = clientId then some (envelopeFor peer message) else none
  | _ => none

def linkStep (transport : Transport) (clientId : ClientId) (link : Link) : LinkCall → Link
  | .host call =>
      let host := hostStep transport link.host call
      let sent := (host.trace.drop link.host.trace.length).filterMap (takenFor clientId)
      { link with host := host, toClient := link.toClient ++ sent }
  | .deliver index localReceiveTimeMs ackAccepted order =>
      match link.toClient[index]? with
      | none => link
      | some envelope =>
          { link with
            client := link.client.receive localReceiveTimeMs
              { envelope := envelope, ackAccepted := ackAccepted, order := order }
            toClient := link.toClient.eraseIdx index }
  | .lose index => { link with toClient := link.toClient.eraseIdx index }
  | .session call => { link with client := sessionStep link.client (.runtime call) }
  | .drainEvents => { link with client := link.client.drainEvents.1 }

def linkRun (transport : Transport) (hostConfig : ServerNetworkHostConfig) (clientId : ClientId)
    (config : SimulationConfig) (calls : List LinkCall) : Link :=
  Runs.run (linkStep transport clientId)
    { host := .new hostConfig, client := .new clientId config } calls

/-! What is counted. -/

def surfaces (eventId : NetworkEventId) : PumpHappening → Bool
  | .surfaced networkEvent => networkEvent.eventId = eventId
  | _ => false

/-- How often a domain event decoded from the id went to the reliable events. -/
def surfacings (client : PumpState) (eventId : NetworkEventId) : Nat :=
  client.trace.countP (surfaces eventId)

/-- A send of the event, the first or a later one, that the transport took. -/
def isCopy (clientId : ClientId) (eventId : NetworkEventId) : Happening → Bool
  | .handed peer (.event event _) true => peer = clientId && event.eventId = eventId
  | _ => false

def copies (host : ServerNetworkHost) (clientId : ClientId) (eventId : NetworkEventId) : Nat :=
  host.trace.countP (isCopy clientId eventId)

def isResentCopy (clientId : ClientId) (eventId : NetworkEventId) : Happening → Bool
  | .handed peer (.event event true) true => peer = clientId && event.eventId = eventId
  | _ => false

def resentCopies (host : ServerNetworkHost) (clientId : ClientId) (eventId : NetworkEventId) : Nat :=
  host.trace.countP (isResentCopy clientId eventId)

/-- An event is surfaced at most once for each copy of it. The host makes one
first copy and others while no acknowledgement is accepted, up to its cap. -/
structure SurfacedPerCopy (link : Link) (clientId : ClientId) (eventId : NetworkEventId) :
    Prop where
  perCopy : surfacings link.client eventId ≤ copies link.host clientId eventId
  oneFirst : copies link.host clientId eventId ≤ 1 + resentCopies link.host clientId eventId
  capped : cap link.host ≠ 0 → copies link.host clientId eventId ≤ (cap link.host).toNat
  stopped : EveryEvent (fun earlier happening => isCopy clientId eventId happening = true →
    Happening.eventAcked clientId eventId ∉ earlier) link.host.trace

/-! From the host to the client. -/

/-- The envelope carries an event with this id. -/
def carries (eventId : NetworkEventId) (envelope : NetworkEnvelope) : Bool :=
  (eventIn envelope).any fun found => found.1.eventId = eventId

theorem carries_taken {clientId : ClientId} {eventId : NetworkEventId} {happening : Happening}
    {envelope : NetworkEnvelope} (taken : takenFor clientId happening = some envelope)
    (carried : carries eventId envelope = true) : isCopy clientId eventId happening = true := by
  cases happening with
  | handed peer message accepted =>
      cases accepted with
      | false => simp [takenFor] at taken
      | true =>
          by_cases mine : peer = clientId
          · rw [takenFor, if_pos mine] at taken
            cases taken
            obtain ⟨found, isFound, sameId⟩ := (Option.any_eq_true _ _).mp carried
            cases message with
            | event event isResend =>
                unfold eventIn at isFound
                split at isFound
                · obtain ⟨decoded, decodes, converted⟩ := Option.bind_eq_some_iff.mp isFound
                  obtain ⟨domainEvent, _, rfl⟩ := Option.map_eq_some_iff.mp converted
                  have exact := (NetworkEventCodec.deserialize_network_event_iff _ event).mpr rfl
                  have sameEvent : event = decoded := Option.some.inj (exact.symm.trans decodes)
                  subst sameEvent
                  simpa [isCopy, mine] using sameId
                · cases isFound
            | snapshot planned baseline => simp [eventIn, envelopeFor, isEventClass] at isFound
            | timeSync response => simp [eventIn, envelopeFor, isEventClass] at isFound
          · rw [takenFor, if_neg mine] at taken
            cases taken
  | snapshotNumbered => cases taken
  | eventNumbered => cases taken
  | snapshotAcked => cases taken
  | eventAcked => cases taken

theorem taken_carrying (clientId : ClientId) (eventId : NetworkEventId) (added : Trace) :
    (added.filterMap (takenFor clientId)).countP (carries eventId) ≤
      added.countP (isCopy clientId eventId) := by
  rw [List.countP_filterMap]
  apply List.countP_mono_left
  intro happening _ found
  cases taken : takenFor clientId happening with
  | none => simp [taken] at found
  | some envelope => exact carries_taken taken (by simpa [taken] using found)

theorem erased_carrying (eventId : NetworkEventId) (envelopes : List NetworkEnvelope)
    (index : Nat) (envelope : NetworkEnvelope) (found : envelopes[index]? = some envelope) :
    (envelopes.eraseIdx index).countP (carries eventId) +
      (if carries eventId envelope then 1 else 0) = envelopes.countP (carries eventId) := by
  obtain ⟨inside, isThere⟩ := List.getElem?_eq_some_iff.mp found
  have perm := List.getElem_cons_eraseIdx_perm inside
  rw [← perm.countP_eq, List.countP_cons, isThere]

theorem erase_carrying_le (eventId : NetworkEventId) (envelopes : List NetworkEnvelope)
    (index : Nat) :
    (envelopes.eraseIdx index).countP (carries eventId) ≤ envelopes.countP (carries eventId) :=
  (List.eraseIdx_sublist envelopes index).countP_le

/-- A polled envelope surfaces one event at most, and only what it carries. -/
theorem receive_surfacings (localReceiveTimeMs : TimestampMs) (client : PumpState)
    (polled : Polled) (eventId : NetworkEventId) :
    surfacings (client.receive localReceiveTimeMs polled) eventId ≤
      surfacings client eventId + if carries eventId polled.envelope then 1 else 0 := by
  unfold PumpState.receive
  split
  · exact Nat.le_add_right _ _
  · split
    · next networkEvent domainEvent isEvent =>
        have surfaced : surfacings (client.receiveEvent localReceiveTimeMs polled.ackAccepted
            networkEvent domainEvent) eventId =
            surfacings client eventId + if networkEvent.eventId = eventId then 1 else 0 := by
          simp [surfacings, PumpState.receiveEvent, PumpState.record, surfaces, List.countP_append,
            List.countP_cons]
        rw [surfaced]
        simp [carries, isEvent]
    · split
      · simp [surfacings, PumpState.receiveSnapshot, PumpState.record, surfaces,
          List.countP_append]
      · exact Nat.le_add_right _ _

/-- What holds of a link after every run. -/
structure Linked (hostConfig : ServerNetworkHostConfig) (clientId : ClientId) (link : Link) :
    Prop where
  progress : Progress (.new hostConfig) link.host
  perCopy : ∀ eventId, surfacings link.client eventId +
    link.toClient.countP (carries eventId) ≤ copies link.host clientId eventId

theorem link_step_linked (transport : Transport) {hostConfig : ServerNetworkHostConfig}
    {clientId : ClientId} (link : Link) (call : LinkCall)
    (linked : Linked hostConfig clientId link) :
    Linked hostConfig clientId (linkStep transport clientId link call) := by
  cases call with
  | host call =>
      have step := host_step_progress transport link.host linked.progress.tidy call
      refine ⟨linked.progress.trans step, fun eventId => ?_⟩
      obtain ⟨added, trace⟩ := moves_trace step.moves
      have isTrace : (hostStep transport link.host call).trace = link.host.trace ++ added := trace
      have before := linked.perCopy eventId
      have sent := taken_carrying clientId eventId added
      simp only [linkStep, copies, isTrace, List.drop_left, List.countP_append] at before ⊢
      omega
  | deliver index localReceiveTimeMs ackAccepted order =>
      cases found : link.toClient[index]? with
      | none => simpa only [linkStep, found] using linked
      | some envelope =>
          simp only [linkStep, found]
          refine ⟨linked.progress, fun eventId => ?_⟩
          have before := linked.perCopy eventId
          have surfaced := receive_surfacings localReceiveTimeMs link.client
            { envelope := envelope, ackAccepted := ackAccepted, order := order } eventId
          have left := erased_carrying eventId link.toClient index envelope found
          dsimp only at surfaced ⊢
          omega
  | lose index =>
      refine ⟨linked.progress, fun eventId => ?_⟩
      exact (Nat.add_le_add_left (erase_carrying_le eventId link.toClient index) _).trans
        (linked.perCopy eventId)
  | session call => exact ⟨linked.progress, linked.perCopy⟩
  | drainEvents => exact ⟨linked.progress, linked.perCopy⟩

theorem link_run_linked (transport : Transport) (hostConfig : ServerNetworkHostConfig)
    (clientId : ClientId) (config : SimulationConfig) (calls : List LinkCall) :
    Linked hostConfig clientId (linkRun transport hostConfig clientId config calls) := by
  apply Runs.run_invariant (linkStep transport clientId) (Linked hostConfig clientId)
  · exact fun link call linked => link_step_linked transport link call linked
  · exact ⟨host_run_progress transport hostConfig [], fun eventId => Nat.le_refl _⟩

/-! What the host sends. -/

/-- The copies of an id that a client was sent, and what is pending of it. -/
structure Counted (maxSendCount : UInt32) (books : Books) (clientId : ClientId)
    (eventId : NetworkEventId) : Prop where
  pending : ∀ entry, pendingOf books clientId eventId = some entry → maxSendCount ≠ 0 →
    books.trace.countP (isCopy clientId eventId) = entry.sendCount.toNat ∧
      entry.sendCount ≤ maxSendCount
  oneFirst : books.trace.countP (isCopy clientId eventId) ≤
    1 + books.trace.countP (isResentCopy clientId eventId)
  capped : maxSendCount ≠ 0 → books.trace.countP (isCopy clientId eventId) ≤ maxSendCount.toNat
  acked : Happening.eventAcked clientId eventId ∈ books.trace →
    pendingOf books clientId eventId = none ∧ ∃ event : NetworkEventDTO, event.eventId = eventId ∧
      Happening.handed clientId (.event event false) true ∈ books.trace
  stopped : EveryEvent (fun earlier happening => isCopy clientId eventId happening = true →
    Happening.eventAcked clientId eventId ∉ earlier) books.trace

theorem counted_start (maxSendCount : UInt32) (clientId : ClientId) (eventId : NetworkEventId) :
    Counted maxSendCount {} clientId eventId where
  pending := by
    intro entry pends
    cases pends
  oneFirst := Nat.zero_le _
  capped := fun _ => Nat.zero_le _
  acked := by
    intro member
    cases member
  stopped := every_event_nil _

/-- A client that was not sent an id first has no copy of it. -/
theorem no_copies {trace : Trace} (resent : EveryEvent ResentAfterFirst trace)
    {clientId : ClientId} {eventId : NetworkEventId}
    (noFirst : ∀ event answer, event.eventId = eventId →
      Happening.handed clientId (.event event false) answer ∉ trace) :
    trace.countP (isCopy clientId eventId) = 0 := by
  rw [List.countP_eq_zero]
  intro happening member isOne
  unfold isCopy at isOne
  split at isOne
  · next peer event isResend =>
      simp only [Bool.and_eq_true, decide_eq_true_eq] at isOne
      obtain ⟨rfl, sameId⟩ := isOne
      cases isResend with
      | false => exact noFirst event true sameId member
      | true =>
          obtain ⟨earlier, later, rfl⟩ := List.append_of_mem member
          have first := resent earlier _ later rfl peer event true rfl
          exact noFirst event true sameId (List.mem_append_left _ first)
  · cases isOne

theorem resent_is_copy {clientId : ClientId} {eventId : NetworkEventId} {happening : Happening}
    (resent : isResentCopy clientId eventId happening = true) :
    isCopy clientId eventId happening = true := by
  unfold isResentCopy at resent
  split at resent
  · exact resent
  · cases resent

theorem tracked_count (event : NetworkEventDTO) (nowMs : TimestampMs)
    (pending : PendingReliableEvent) :
    (trackedEntry event nowMs pending).sendCount = pending.sendCount + 1 := by
  unfold trackedEntry
  dsimp only
  split
  · rfl
  · rfl

section Counting

variable {maxSendCount : UInt32} {before after : Books} {clientId : ClientId}
  {eventId : NetworkEventId}

/-- Happenings that are neither copies nor acknowledgements of the id. -/
theorem counted_unchanged (counted : Counted maxSendCount before clientId eventId)
    {added : Trace} (trace : after.trace = before.trace ++ added)
    (noCopy : ∀ happening ∈ added, isCopy clientId eventId happening = false)
    (noAck : Happening.eventAcked clientId eventId ∉ added)
    (pending : pendingOf after clientId eventId = pendingOf before clientId eventId) :
    Counted maxSendCount after clientId eventId := by
  have sameCopies : after.trace.countP (isCopy clientId eventId) =
      before.trace.countP (isCopy clientId eventId) := by
    rw [trace, List.countP_append, Nat.add_eq_left, List.countP_eq_zero]
    exact fun happening member => by simp [noCopy happening member]
  have sameResent : after.trace.countP (isResentCopy clientId eventId) =
      before.trace.countP (isResentCopy clientId eventId) := by
    rw [trace, List.countP_append, Nat.add_eq_left, List.countP_eq_zero]
    intro happening member resent
    have isOne := resent_is_copy resent
    rw [noCopy happening member] at isOne
    cases isOne
  constructor
  case pending =>
    rw [sameCopies, pending]
    exact counted.pending
  case oneFirst =>
    rw [sameCopies, sameResent]
    exact counted.oneFirst
  case capped =>
    rw [sameCopies]
    exact counted.capped
  case acked =>
    rw [pending, trace]
    intro member
    obtain ⟨absent, event, sameId, first⟩ :=
      counted.acked ((List.mem_append.mp member).resolve_right noAck)
    exact ⟨absent, event, sameId, List.mem_append_left _ first⟩
  case stopped =>
    rw [trace]
    refine every_event_append counted.stopped fun happening member earlier isOne => ?_
    rw [noCopy happening member] at isOne
    cases isOne

/-- A copy that is not stopped: what it adds to the counts. -/
theorem counted_copy (counted : Counted maxSendCount before clientId eventId)
    {event : NetworkEventDTO} {isResend : Bool} (sameId : event.eventId = eventId)
    (trace : after.trace = before.trace ++ [.handed clientId (.event event isResend) true])
    (notAcked : Happening.eventAcked clientId eventId ∉ before.trace)
    (first : isResend = false → before.trace.countP (isCopy clientId eventId) = 0)
    (pending : ∀ entry, pendingOf after clientId eventId = some entry → maxSendCount ≠ 0 →
      before.trace.countP (isCopy clientId eventId) + 1 = entry.sendCount.toNat ∧
        entry.sendCount ≤ maxSendCount)
    (pends : ∃ entry, pendingOf after clientId eventId = some entry) :
    Counted maxSendCount after clientId eventId := by
  have isOne : isCopy clientId eventId (.handed clientId (.event event isResend) true) = true := by
    simp [isCopy, sameId]
  have oneMore : after.trace.countP (isCopy clientId eventId) =
      before.trace.countP (isCopy clientId eventId) + 1 := by
    rw [trace, List.countP_append, List.countP_singleton, if_pos isOne]
  have pendingAfter : ∀ entry, pendingOf after clientId eventId = some entry →
      maxSendCount ≠ 0 → after.trace.countP (isCopy clientId eventId) = entry.sendCount.toNat ∧
        entry.sendCount ≤ maxSendCount := by
    intro entry isPending nonzero
    rw [oneMore]
    exact pending entry isPending nonzero
  refine ⟨pendingAfter, ?_, ?_, ?_, ?_⟩
  · rw [oneMore, trace, List.countP_append, List.countP_singleton]
    cases isResend with
    | false =>
        rw [first rfl]
        omega
    | true =>
        have before := counted.oneFirst
        have isResent : isResentCopy clientId eventId
            (.handed clientId (.event event true) true) = true := isOne
        rw [if_pos isResent]
        omega
  · intro nonzero
    obtain ⟨entry, isPending⟩ := pends
    obtain ⟨count, below⟩ := pendingAfter entry isPending nonzero
    rw [count]
    exact UInt32.le_iff_toNat_le.mp below
  · intro member
    rw [trace] at member
    rcases List.mem_append.mp member with old | new
    · exact absurd old notAcked
    · cases List.mem_singleton.mp new
  · rw [trace, every_event_concat]
    exact ⟨counted.stopped, fun _ => notAcked⟩

/-- The first copy of an event: its id was sent to nobody before. -/
theorem first_copy_counted {event : NetworkEventDTO}
    (counted : Counted maxSendCount before clientId event.eventId) (unwrapped : Unwrapped before)
    (numbered : Numbered after) (few : eventsNumbered after.trace < 2 ^ 32) {nowMs : TimestampMs}
    (trace : after.trace = before.trace ++ [.handed clientId (.event event false) true])
    (updated : pendingOf after clientId event.eventId =
      some (trackedEntry event nowMs ((pendingOf before clientId event.eventId).getD {}))) :
    Counted maxSendCount after clientId event.eventId := by
  have noFirst : ∀ other answer, other.eventId = event.eventId →
      Happening.handed clientId (.event other false) answer ∉ before.trace :=
    fun other answer sameId => first_send_new numbered few trace sameId
  have unsent := no_copies unwrapped.resent noFirst
  have absent : pendingOf before clientId event.eventId = none := by
    cases pends : pendingOf before clientId event.eventId with
    | none => rfl
    | some entry =>
        exact absurd (unwrapped.filed.taken clientId _ entry pends)
          (noFirst entry.event true (unwrapped.filed.own clientId _ entry pends))
  refine counted_copy counted rfl trace ?_ (fun _ => unsent) ?_ ⟨_, updated⟩
  · intro acked
    obtain ⟨_, other, sameId, sent⟩ := counted.acked acked
    exact noFirst other true sameId sent
  · intro entry isPending nonzero
    rw [updated, absent] at isPending
    cases isPending
    rw [unsent, tracked_count]
    have positive : maxSendCount.toNat ≠ 0 := fun zero => nonzero (UInt32.toNat.inj zero)
    exact ⟨rfl, UInt32.le_iff_toNat_le.mpr (Nat.one_le_iff_ne_zero.mpr positive)⟩

/-- A resent copy: its event was pending below the send cap. -/
theorem resent_copy_counted {event : NetworkEventDTO}
    (counted : Counted maxSendCount before clientId event.eventId) {nowMs : TimestampMs}
    (trace : after.trace = before.trace ++ [.handed clientId (.event event true) true])
    (updated : pendingOf after clientId event.eventId =
      some (trackedEntry event nowMs ((pendingOf before clientId event.eventId).getD {})))
    {old : PendingReliableEvent} (isOld : pendingOf before clientId event.eventId = some old)
    (below : belowCap maxSendCount old = true) :
    Counted maxSendCount after clientId event.eventId := by
  refine counted_copy counted rfl trace ?_ (by simp) ?_ ⟨_, updated⟩
  · intro acked
    have absent := (counted.acked acked).1
    rw [isOld] at absent
    cases absent
  · intro entry isPending nonzero
    rw [updated, isOld] at isPending
    cases isPending
    obtain ⟨count, _⟩ := counted.pending old isOld nonzero
    have room : old.sendCount < maxSendCount := by simpa [belowCap, nonzero] using below
    have roomNat := UInt32.lt_iff_toNat_lt.mp room
    have small := maxSendCount.toNat_lt
    rw [count, Option.getD_some, tracked_count, UInt32.le_iff_toNat_le, UInt32.toNat_add]
    have one : (1 : UInt32).toNat = 1 := rfl
    omega

/-- The acknowledgement of a pending event. -/
theorem acked_counted (counted : Counted maxSendCount before clientId eventId)
    (filed : Filed before) (trace : after.trace = before.trace ++ [.eventAcked clientId eventId])
    (gone : pendingOf after clientId eventId = none) {entry : PendingReliableEvent}
    (pends : pendingOf before clientId eventId = some entry) :
    Counted maxSendCount after clientId eventId := by
  have sameCopies (isOne : Happening → Bool)
      (notAck : isOne (.eventAcked clientId eventId) = false) :
      after.trace.countP isOne = before.trace.countP isOne := by
    rw [trace, List.countP_append, List.countP_singleton, notAck]
    rfl
  constructor
  case pending =>
    intro entry isPending
    rw [gone] at isPending
    cases isPending
  case oneFirst =>
    rw [sameCopies _ rfl, sameCopies _ rfl]
    exact counted.oneFirst
  case capped =>
    rw [sameCopies _ rfl]
    exact counted.capped
  case acked =>
    intro _
    refine ⟨gone, entry.event, filed.own clientId eventId entry pends, ?_⟩
    rw [trace]
    exact List.mem_append_left _ (filed.taken clientId eventId entry pends)
  case stopped =>
    rw [trace, every_event_concat]
    exact ⟨counted.stopped, by simp [isCopy]⟩

end Counting

theorem move_counted (maxSendCount : UInt32) (before after : Books)
    (move : Move maxSendCount before after) (unwrapped : Unwrapped before)
    (numbered : Numbered after) (few : eventsNumbered after.trace < 2 ^ 32) (clientId : ClientId)
    (eventId : NetworkEventId) (counted : Counted maxSendCount before clientId eventId) :
    Counted maxSendCount after clientId eventId := by
  cases move_event_move maxSendCount move with
  | quiet added trace silent pending =>
      refine counted_unchanged counted trace ?_ ?_ (pending clientId eventId)
      · intro happening member
        have isSilent := (silent happening member).1
        unfold isCopy
        split
        · exact absurd rfl (isSilent _ _ _ _)
        · rfl
      · exact fun member => (silent _ member).2 clientId eventId rfl
  | sent peer event isResend accepted nowMs trace pending first again =>
      by_cases mine : accepted = true ∧ clientId = peer ∧ eventId = event.eventId
      · have updated := pending clientId eventId
        rw [if_pos mine] at updated
        obtain ⟨rfl, rfl, rfl⟩ := mine
        cases isResend with
        | false => exact first_copy_counted counted unwrapped numbered few trace updated
        | true =>
            obtain ⟨old, isOld, _, below⟩ := again rfl
            exact resent_copy_counted counted trace updated isOld below
      · -- Another client's copy, another event's, or one that the transport refused.
        refine counted_unchanged counted trace ?_ (by simp) ?_
        · intro happening member
          rw [List.mem_singleton.mp member]
          cases accepted with
          | false => rfl
          | true =>
              simp only [isCopy, Bool.and_eq_false_iff, decide_eq_false_iff_not]
              by_cases isPeer : peer = clientId
              · exact Or.inr fun sameId => mine ⟨rfl, isPeer.symm, sameId.symm⟩
              · exact Or.inl isPeer
        · rw [pending, if_neg mine]
  | acked peer otherId entry trace pending pends =>
      by_cases mine : clientId = peer ∧ eventId = otherId
      · obtain ⟨rfl, rfl⟩ := mine
        -- An acknowledged event is not pending any more, so no copy follows.
        have gone : pendingOf after clientId eventId = none := by
          rw [pending, if_pos ⟨rfl, rfl⟩]
        exact acked_counted counted unwrapped.filed trace gone pends
      · refine counted_unchanged counted trace (by simp [isCopy]) ?_ ?_
        · intro member
          cases List.mem_singleton.mp member
          exact mine ⟨rfl, rfl⟩
        · rw [pending, if_neg mine]

/-- An event is surfaced once for each copy that arrives. The copies are the first
one and the resent ones, none follows an accepted acknowledgement, and a send cap
bounds them. -/
theorem surfaced_per_copy (transport : Transport) (hostConfig : ServerNetworkHostConfig)
    (clientId : ClientId) (config : SimulationConfig) (calls : List LinkCall)
    (few : eventsNumbered (linkRun transport hostConfig clientId config calls).host.trace < 2 ^ 32)
    (eventId : NetworkEventId) :
    SurfacedPerCopy (linkRun transport hostConfig clientId config calls) clientId eventId := by
  have linked := link_run_linked transport hostConfig clientId config calls
  generalize linkRun transport hostConfig clientId config calls = link at few linked ⊢
  have sameCap : cap link.host = cap (.new hostConfig) := by
    unfold cap
    rw [linked.progress.config]
  have moves := linked.progress.moves
  rw [new_books, ← sameCap] at moves
  have invariant := moves_invariant
    (fun books => Unwrapped books ∧ (eventsNumbered books.trace < 2 ^ 32 →
      Counted (cap link.host) books clientId eventId))
    (fun before after move holds => ⟨move_unwrapped _ before after move holds.1, fun few =>
      move_counted _ before after move holds.1 (move_numbered _ before after move holds.1.numbered)
        few clientId eventId (holds.2 (few_before move few))⟩)
    moves ⟨unwrapped_start, fun _ => counted_start _ clientId eventId⟩
  have counted := invariant.2 few
  exact ⟨(Nat.le_add_right _ _).trans (linked.perCopy eventId), counted.oneFirst, counted.capped,
    counted.stopped⟩

/-- The acknowledgement of event 1 is late: the host resends the event before it
polls it. -/
def lateAck : List LinkCall :=
  [.host (joinCall 1), .host (.tickAndSendSnapshots .stored .stored 16),
   .deliver 1 0 true .stored, .host (.tickAndSendSnapshots .stored .stored 300),
   .deliver 3 0 true .stored]

theorem late_ack_numbered :
    eventsNumbered (linkRun (fun _ _ => true) {} 1 {} lateAck).host.trace < 2 ^ 32 := by
  have two : eventsNumbered (linkRun (fun _ _ => true) {} 1 {} lateAck).host.trace = 2 := by
    decide +kernel
  rw [two]
  decide

theorem surfaced_per_copy_late :
    SurfacedPerCopy (linkRun (fun _ _ => true) {} 1 {} lateAck) 1 1 :=
  surfaced_per_copy (fun _ _ => true) {} 1 {} lateAck late_ack_numbered 1

/-- Both copies of the event that a late acknowledgement lets through surface. -/
theorem surfaced_twice :
    ¬ ∀ transport hostConfig clientId config calls eventId,
      eventsNumbered (linkRun transport hostConfig clientId config calls).host.trace < 2 ^ 32 →
      surfacings (linkRun transport hostConfig clientId config calls).client eventId ≤ 1 := by
  intro once
  have two : surfacings (linkRun (fun _ _ => true) {} 1 {} lateAck).client 1 = 2 := by
    decide +kernel
  have atMostOne := once (fun _ _ => true) {} 1 {} lateAck 1 late_ack_numbered
  rw [two] at atMostOne
  exact absurd atMostOne (by decide)

end Brawololo.EventSurfacing
