import Brawololo.RemoteClientSession
import Brawololo.ServerNetworkHost

/-!
The network host over a transport. The host leaves open how its transport
answers; here the answers are those of a transport that changes with every
envelope it is handed, and the host polls from it what it handles.
-/

namespace Brawololo.HostTransports

open GameTypes EntityStore NetworkEvents NetworkProtocol Serialization Simulation Replication
open Server ServerNetworkHost Client PollLoops

universe u

/-- The envelope of a `Send`. -/
def handedEnvelope : Happening → Option NetworkEnvelope
  | .handed clientId message _ => some (envelopeFor clientId message)
  | _ => none

/-- The envelope of a `Send` that returned true. -/
def takenEnvelope : Happening → Option NetworkEnvelope
  | .handed clientId message true => some (envelopeFor clientId message)
  | _ => none

/-! What the record says of a `Send` is what the transport answered. -/

/-- Between the two hosts the record grows by truthful entries. -/
structure Answered (transport : Transport) (before after : ServerNetworkHost) (added : Trace) :
    Prop where
  trace : after.trace = before.trace ++ added
  truthful : ∀ earlier clientId message accepted later,
    added = earlier ++ .handed clientId message accepted :: later →
    accepted = transport (before.trace ++ earlier) (envelopeFor clientId message)

namespace Answered

variable {transport : Transport} {first second third : ServerNetworkHost} {one two : Trace}

theorem silent (same : second.trace = first.trace) : Answered transport first second [] := by
  refine ⟨by rw [same, List.append_nil], ?_⟩
  intro earlier clientId message accepted later split
  cases earlier <;> cases split

theorem trans (left : Answered transport first second one)
    (right : Answered transport second third two) :
    Answered transport first third (one ++ two) := by
  refine ⟨by rw [right.trace, left.trace, List.append_assoc], ?_⟩
  intro earlier clientId message accepted later split
  rcases List.append_eq_append_iff.mp split with
    ⟨middle, isEarlier, isTwo⟩ | ⟨middle, isOne, isLater⟩
  · have answer := right.truthful middle clientId message accepted later isTwo
    rw [left.trace, List.append_assoc, ← isEarlier] at answer
    exact answer
  · cases middle with
    | nil =>
        have isEarlier : one = earlier := by simpa using isOne
        have answer := right.truthful [] clientId message accepted later isLater.symm
        rw [List.append_nil, left.trace, isEarlier] at answer
        exact answer
    | cons happening middle =>
        cases isLater
        exact left.truthful earlier clientId message accepted middle isOne

end Answered

section Host

variable (transport : Transport)

/-- Entries of the record that acknowledge nothing. -/
def Unacked : Happening → Prop
  | .snapshotAcked _ _ | .eventAcked _ _ => False
  | _ => True

/-- A stage of the host that appends truthful entries and no acknowledgement. -/
def Answers (before after : ServerNetworkHost) : Prop :=
  ∃ added, Answered transport before after added ∧ ∀ happening ∈ added, Unacked happening

variable {transport}

theorem answers_silent {before after : ServerNetworkHost} (same : after.trace = before.trace) :
    Answers transport before after :=
  ⟨[], .silent same, by simp⟩

theorem answers_trans {first second third : ServerNetworkHost}
    (left : Answers transport first second) (right : Answers transport second third) :
    Answers transport first third := by
  obtain ⟨one, isOne, early⟩ := left
  obtain ⟨two, isTwo, late⟩ := right
  refine ⟨one ++ two, isOne.trans isTwo, ?_⟩
  intro happening member
  rcases List.mem_append.mp member with inOne | inTwo
  · exact early happening inOne
  · exact late happening inTwo

theorem answers_loop {Item : Type} (turn : ServerNetworkHost → Item → ServerNetworkHost)
    (turns : ∀ host item, Answers transport host (turn host item)) (items : List Item)
    (host : ServerNetworkHost) : Answers transport host (items.foldl turn host) := by
  induction items generalizing host with
  | nil => exact answers_silent rfl
  | cons item rest ih => exact answers_trans (turns host item) (ih (turn host item))

/-- An entry that is no `Send`. -/
theorem answered_record {before after : ServerNetworkHost} (happening : Happening)
    (trace : after.trace = before.trace ++ [happening])
    (noSend : handedEnvelope happening = none) :
    Answered transport before after [happening] := by
  refine ⟨trace, ?_⟩
  intro earlier clientId message accepted later split
  have member : Happening.handed clientId message accepted ∈ [happening] := by
    rw [split]
    exact List.mem_append_right _ List.mem_cons_self
  rw [← List.mem_singleton.mp member] at noSend
  cases noSend

theorem answers_record {before after : ServerNetworkHost} (happening : Happening)
    (trace : after.trace = before.trace ++ [happening])
    (noSend : handedEnvelope happening = none) (unacked : Unacked happening) :
    Answers transport before after := by
  refine ⟨[happening], answered_record happening trace noSend, ?_⟩
  intro other member
  rw [List.mem_singleton.mp member]
  exact unacked

variable (transport)

theorem send_answers (host : ServerNetworkHost) (clientId : ClientId) (message : HostMessage) :
    Answers transport host (host.send transport clientId message).1 := by
  refine ⟨[_], ⟨rfl, ?_⟩, ?_⟩
  · intro earlier other message accepted later split
    cases earlier with
    | nil =>
        cases split
        rw [List.append_nil]
    | cons head rest => cases rest <;> cases split
  · intro happening member
    rw [List.mem_singleton.mp member]
    trivial

theorem send_event_answers (host : ServerNetworkHost) (clientId : ClientId)
    (event : NetworkEventDTO) (nowMs : TimestampMs) (isResend : Bool) :
    Answers transport host
      (host.sendReliableEvent transport clientId event nowMs isResend) := by
  refine answers_trans (send_answers transport host clientId (.event event isResend)) ?_
  unfold sendReliableEvent
  dsimp only
  split
  · exact answers_silent rfl
  · exact answers_silent rfl

theorem numbered_event_answers (host : ServerNetworkHost) (event : DomainEvent) :
    Answers transport host (host.numberedEvent event).1 :=
  answers_record _ rfl rfl trivial

theorem broadcast_answers (host : ServerNetworkHost) (events : EventList) (nowMs : TimestampMs) :
    Answers transport host (host.broadcastReliableEvents transport events nowMs) := by
  apply answers_loop
  intro host event
  have numbered := numbered_event_answers transport host event
  unfold broadcastEvent
  split
  · next isNumbered =>
      rw [isNumbered] at numbered
      exact numbered
  · next isNumbered =>
      rw [isNumbered] at numbered
      refine answers_trans numbered (answers_loop _ ?_ _ _)
      intro host clientId
      unfold sendToClient
      split
      · exact answers_silent rfl
      · exact send_event_answers transport host clientId _ nowMs false

theorem interest_answers (host : ServerNetworkHost) (clientId : ClientId) (frame : InterestFrame)
    (nowMs : TimestampMs) :
    Answers transport host (host.sendInterestEvents transport clientId frame nowMs) := by
  apply answers_loop
  intro host event
  have numbered := numbered_event_answers transport host event
  unfold sendInterestEvent
  split
  · next isNumbered =>
      rw [isNumbered] at numbered
      exact numbered
  · next isNumbered =>
      rw [isNumbered] at numbered
      exact answers_trans numbered (send_event_answers transport _ clientId _ nowMs false)

theorem follow_answers (hostOrder : HostOrder) (nowMs : TimestampMs) (host : ServerNetworkHost)
    (clientId : ClientId) (planned : SnapshotDTO) :
    Answers transport host (host.followInterest transport hostOrder nowMs clientId planned) := by
  unfold followInterest
  split
  · exact answers_silent rfl
  · next state isState =>
      obtain ⟨tracker, frame⟩ := state.interest.update hostOrder (.exitedEntities clientId) planned
      let tracked := (host.updateClient clientId fun state =>
        { state with interest := tracker }).countStats (countInterest frame)
      have began : Answers transport host tracked := answers_silent rfl
      exact answers_trans began (interest_answers transport tracked clientId frame nowMs)

theorem resend_answers (hostOrder : HostOrder) (host : ServerNetworkHost) (nowMs : TimestampMs) :
    Answers transport host (host.resendPendingReliableEvents transport hostOrder nowMs) := by
  apply answers_loop
  intro host clientId
  unfold resendToClient
  split
  · exact answers_silent rfl
  · exact answers_loop _
      (fun host event => send_event_answers transport host clientId event nowMs true) _ _

theorem send_snapshot_answers (order : LoopOrder) (hostOrder : HostOrder) (nowMs : TimestampMs)
    (host : ServerNetworkHost) (clientId : ClientId) :
    Answers transport host (host.sendSnapshot transport order hostOrder nowMs clientId).1 := by
  let planned := (host.plannedSnapshot order clientId).snapshot
  let baseline := host.deltaBaseline clientId planned
  let counted := host.numberSnapshot.countStats (countDeltaPlan planned baseline)
  have numbered : Answers transport host counted := answers_record _ rfl rfl trivial
  have sent := answers_trans numbered
    (send_answers transport counted clientId (.snapshot planned baseline))
  unfold sendSnapshot
  dsimp only
  split
  · exact sent
  · have followed :=
      answers_trans sent (follow_answers transport hostOrder nowMs _ clientId planned)
    exact answers_trans followed (answers_silent rfl)

theorem snapshot_turn_answers (order : LoopOrder) (hostOrder : HostOrder) (nowMs : TimestampMs)
    (host : ServerNetworkHost) (clientId : ClientId) :
    Answers transport host (host.snapshotTurn transport order hostOrder nowMs clientId) := by
  have sent := send_snapshot_answers transport order hostOrder nowMs host clientId
  unfold snapshotTurn
  split
  · exact answers_silent rfl
  · split
    · next isSent =>
        rw [isSent] at sent
        exact answers_trans sent (answers_silent rfl)
    · next isSent =>
        rw [isSent] at sent
        exact sent

theorem tick_answers (order : LoopOrder) (hostOrder : HostOrder) (host : ServerNetworkHost)
    (nowMs : TimestampMs) :
    Answers transport host (host.tickAndSendSnapshots transport order hostOrder nowMs) := by
  let ticked : ServerNetworkHost :=
    { host with runtime := (host.runtime.tick order).drainEvents.1 }
  have began : Answers transport host ticked := answers_silent rfl
  have turned := answers_trans began (answers_loop _
    (snapshot_turn_answers transport order hostOrder nowMs) ticked.clients ticked)
  have broadcast := answers_trans turned
    (broadcast_answers transport _ (host.runtime.tick order).drainEvents.2 nowMs)
  have resent := answers_trans broadcast (resend_answers transport hostOrder _ nowMs)
  exact answers_trans resent (answers_silent rfl)

/-- What the host does with an envelope: it acknowledges nothing, or exactly what
the envelope does. -/
inductive EnvelopeAnswers (host : ServerNetworkHost) (envelope : NetworkEnvelope) :
    ServerNetworkHost → Prop
  | unacked {after : ServerNetworkHost} (answers : Answers transport host after) :
      EnvelopeAnswers host envelope after
  | snapshotAcked {after : ServerNetworkHost} (ack : SnapshotAckDTO)
      (isClass : envelope.messageClass = .snapshotAck)
      (decoded : deserializeSnapshotAck envelope.payload = some ack)
      (trace : after.trace = host.trace ++ [.snapshotAcked ack.clientId ack.snapshotId]) :
      EnvelopeAnswers host envelope after
  | eventAcked {after : ServerNetworkHost} (ack : NetworkEventAckDTO)
      (isClass : envelope.messageClass = .networkEventAck)
      (decoded : deserializeNetworkEventAck envelope.payload = some ack)
      (trace : after.trace = host.trace ++ [.eventAcked ack.clientId ack.eventId]) :
      EnvelopeAnswers host envelope after

theorem snapshot_ack_answers (host : ServerNetworkHost) (envelope : NetworkEnvelope)
    (isClass : envelope.messageClass = .snapshotAck) :
    EnvelopeAnswers transport host envelope (host.handleSnapshotAckEnvelope envelope) := by
  unfold handleSnapshotAckEnvelope
  split
  · exact .unacked (answers_silent rfl)
  · next ack decoded =>
      split
      · exact .unacked (answers_silent rfl)
      · split
        · exact .unacked (answers_silent rfl)
        · split
          · exact .unacked (answers_silent rfl)
          · exact .snapshotAcked ack isClass decoded rfl

theorem event_ack_answers (host : ServerNetworkHost) (envelope : NetworkEnvelope)
    (isClass : envelope.messageClass = .networkEventAck) :
    EnvelopeAnswers transport host envelope (host.handleNetworkEventAckEnvelope envelope) := by
  unfold handleNetworkEventAckEnvelope
  split
  · exact .unacked (answers_silent rfl)
  · next ack decoded =>
      split
      · exact .unacked (answers_silent rfl)
      · split
        · exact .unacked (answers_silent rfl)
        · exact .eventAcked ack isClass decoded rfl

theorem login_answers (host : ServerNetworkHost) (envelope : NetworkEnvelope) :
    Answers transport host (host.handleLoginEnvelope envelope) := by
  unfold handleLoginEnvelope
  split
  · exact answers_silent rfl
  · dsimp only
    split
    · exact answers_silent rfl
    · split
      · exact answers_silent rfl
      · exact answers_silent rfl

theorem input_answers (host : ServerNetworkHost) (envelope : NetworkEnvelope) :
    Answers transport host (host.handleInputEnvelope envelope) := by
  unfold handleInputEnvelope
  split
  · exact answers_silent rfl
  · dsimp only
    split
    · exact answers_silent rfl
    · exact answers_silent rfl

theorem time_sync_answers (host : ServerNetworkHost) (envelope : NetworkEnvelope) :
    Answers transport host (host.handleTimeSyncEnvelope transport envelope) := by
  unfold handleTimeSyncEnvelope
  split
  · exact answers_silent rfl
  · next request isRequest =>
      let counted := host.countStats fun stats =>
        { stats with timeSyncRequestsReceived := stats.timeSyncRequestsReceived + 1 }
      have began : Answers transport host counted := answers_silent rfl
      dsimp only
      split
      · exact answers_trans began
          (answers_trans (send_answers transport counted _ _) (answers_silent rfl))
      · exact answers_trans began (send_answers transport counted _ _)

theorem envelope_answers (host : ServerNetworkHost) (envelope : NetworkEnvelope) :
    EnvelopeAnswers transport host envelope (host.handleEnvelope transport envelope) := by
  unfold handleEnvelope
  split
  · exact .unacked (answers_silent rfl)
  · split
    · exact .unacked (login_answers transport host envelope)
    · exact .unacked (input_answers transport host envelope)
    · next isClass => exact snapshot_ack_answers transport host envelope isClass
    · next isClass => exact event_ack_answers transport host envelope isClass
    · exact .unacked (time_sync_answers transport host envelope)
    · exact .unacked (answers_silent rfl)

theorem envelope_answered (host : ServerNetworkHost) (envelope : NetworkEnvelope) :
    ∃ added, Answered transport host (host.handleEnvelope transport envelope) added := by
  cases envelope_answers transport host envelope with
  | unacked answers =>
      obtain ⟨added, answered, _⟩ := answers
      exact ⟨added, answered⟩
  | snapshotAcked ack isClass decoded trace => exact ⟨_, answered_record _ trace rfl⟩
  | eventAcked ack isClass decoded trace => exact ⟨_, answered_record _ trace rfl⟩

theorem pump_answered (polled : List NetworkEnvelope) (host : ServerNetworkHost) :
    ∃ added, Answered transport host (host.pumpClientMessages transport polled) added := by
  induction polled generalizing host with
  | nil => exact ⟨[], .silent rfl⟩
  | cons envelope rest ih =>
      obtain ⟨first, answered⟩ := envelope_answered transport host envelope
      obtain ⟨later, answered'⟩ := ih (host.handleEnvelope transport envelope)
      exact ⟨first ++ later, answered.trans answered'⟩

theorem host_step_answered (host : ServerNetworkHost) (call : HostCall) :
    ∃ added, Answered transport host (hostStep transport host call) added := by
  cases call with
  | connectSimulationOnlyClient clientId nowMs => exact ⟨[], .silent rfl⟩
  | pumpClientMessages polled => exact pump_answered transport polled host
  | tickAndSendSnapshots order hostOrder nowMs =>
      obtain ⟨added, answered, _⟩ := tick_answers transport order hostOrder host nowMs
      exact ⟨added, answered⟩
  | drainEvents => exact ⟨[], .silent rfl⟩
  | buildSnapshotFor => exact ⟨_, answered_record _ rfl rfl⟩
  | changeRuntime runtime => exact ⟨[], .silent rfl⟩

/-- The whole record of a run is truthful. -/
theorem host_run_answered (config : ServerNetworkHostConfig) (calls : List HostCall) :
    Answered transport (.new config) (hostRun transport config calls)
      (hostRun transport config calls).trace := by
  have ran : ∃ added, Answered transport (.new config) (hostRun transport config calls) added := by
    apply Runs.run_invariant (hostStep transport)
      (fun host => ∃ added, Answered transport (.new config) host added)
    · rintro host call ⟨added, answered⟩
      obtain ⟨later, answered'⟩ := host_step_answered transport host call
      exact ⟨added ++ later, answered.trans answered'⟩
    · exact ⟨[], .silent rfl⟩
  obtain ⟨added, answered⟩ := ran
  have isAdded : (hostRun transport config calls).trace = added := answered.trace
  rw [isAdded]
  exact answered

end Host

/-! The host over a transport. -/

/-- A host and the transport it refers to. -/
structure Hosted (Link : Type u) where
  link : Link
  host : ServerNetworkHost

section Transport

variable {Link : Type u} (io : ITransport Link)

/-- The transport after it was handed these envelopes. -/
def sendAll (link : Link) (envelopes : List NetworkEnvelope) : Link :=
  envelopes.foldl (fun link envelope => (io.send envelope link).2) link

namespace Hosted

/-- How the transport answers during a call: it has been handed what the record
has gained since the call began. -/
def answers (hosted : Hosted Link) : Transport := fun trace envelope =>
  (io.send envelope (sendAll io hosted.link
    ((trace.drop hosted.host.trace.length).filterMap handedEnvelope))).1

def call (hosted : Hosted Link) (hostCall : HostCall) : Hosted Link :=
  let host := hostStep (hosted.answers io) hosted.host hostCall
  { host := host
    link := sendAll io hosted.link
      ((host.trace.drop hosted.host.trace.length).filterMap handedEnvelope) }

def poll (hosted : Hosted Link) : Option NetworkEnvelope × Hosted Link :=
  ((io.poll hosted.link).1, { hosted with link := (io.poll hosted.link).2 })

/-- `polls` is how often the transport is polled at most. -/
def pumpClientMessages (polls : Nat) (hosted : Hosted Link) : Hosted Link :=
  whileSome (poll io) (fun hosted envelope => hosted.call io (.pumpClientMessages [envelope]))
    polls hosted

def tickAndSendSnapshots (order : LoopOrder) (hostOrder : HostOrder) (nowMs : TimestampMs)
    (hosted : Hosted Link) : Hosted Link :=
  hosted.call io (.tickAndSendSnapshots order hostOrder nowMs)

end Hosted

/-! Transports that answer the same at all times. -/

/-- While `holds`, the transport takes exactly these envelopes, and keeps it so. -/
structure Steady (holds : Link → Prop) (takes : NetworkEnvelope → Bool) : Prop where
  answers : ∀ link envelope, holds link → (io.send envelope link).1 = takes envelope
  keeps : ∀ link envelope, holds link → holds (io.send envelope link).2

section Steady

variable {io} {holds : Link → Prop} {takes : NetworkEnvelope → Bool}

theorem Steady.send_all (steady : Steady io holds takes) (envelopes : List NetworkEnvelope)
    {link : Link} (held : holds link) : holds (sendAll io link envelopes) := by
  induction envelopes generalizing link with
  | nil => exact held
  | cons envelope rest ih => exact ih (steady.keeps link envelope held)

theorem Steady.hosted_answers (steady : Steady io holds takes) {hosted : Hosted Link}
    (held : holds hosted.link) : hosted.answers io = fun _ => takes := by
  funext trace envelope
  exact steady.answers _ envelope (steady.send_all _ held)

/-- The host is called as on fixed answers, and the transport is handed what the
record gains. -/
theorem Steady.hosted_call (steady : Steady io holds takes) {hosted : Hosted Link}
    (held : holds hosted.link) (call : HostCall) :
    (hosted.call io call).host = hostStep (fun _ => takes) hosted.host call ∧
      ∃ added, Answered (fun _ => takes) hosted.host (hosted.call io call).host added ∧
        (hosted.call io call).link =
          sendAll io hosted.link (added.filterMap handedEnvelope) := by
  obtain ⟨added, answered⟩ := host_step_answered (fun _ => takes) hosted.host call
  have isAdded : (hostStep (fun _ => takes) hosted.host call).trace.drop
      hosted.host.trace.length = added := by
    rw [answered.trace, List.drop_left]
  unfold Hosted.call
  rw [steady.hosted_answers held]
  dsimp only
  rw [isAdded]
  exact ⟨rfl, added, answered, rfl⟩

end Steady

end Transport

section Answers

variable {takes : NetworkEnvelope → Bool} {before after : ServerNetworkHost} {added : Trace}

theorem answered_always (answered : Answered (fun _ => takes) before after added)
    {clientId : ClientId} {message : HostMessage} {accepted : Bool}
    (member : Happening.handed clientId message accepted ∈ added) :
    accepted = takes (envelopeFor clientId message) := by
  obtain ⟨earlier, later, split⟩ := List.append_of_mem member
  exact answered.truthful earlier clientId message accepted later split

/-- What the transport took is what the record of the host says it took. -/
theorem taken_of_answered (answered : Answered (fun _ => takes) before after added) :
    (added.filterMap handedEnvelope).filter takes = added.filterMap takenEnvelope := by
  have truthful : ∀ clientId message accepted,
      Happening.handed clientId message accepted ∈ added →
        accepted = takes (envelopeFor clientId message) :=
    fun clientId message accepted => answered_always answered
  clear answered
  induction added with
  | nil => rfl
  | cons happening rest ih =>
      have tail := ih fun clientId message accepted member =>
        truthful clientId message accepted (List.mem_cons_of_mem _ member)
      cases happening with
      | handed clientId message accepted =>
          have answer := truthful clientId message accepted List.mem_cons_self
          rw [List.filterMap_cons_some (show handedEnvelope (.handed clientId message accepted) =
            some (envelopeFor clientId message) from rfl), List.filter_cons, ← answer]
          cases accepted with
          | true =>
              rw [if_pos rfl, tail]
              rfl
          | false =>
              rw [if_neg Bool.false_ne_true, tail]
              rfl
      | snapshotNumbered snapshotId => exact tail
      | eventNumbered eventId => exact tail
      | snapshotAcked clientId snapshotId => exact tail
      | eventAcked clientId eventId => exact tail

end Answers

end Brawololo.HostTransports
