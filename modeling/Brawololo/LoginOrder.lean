import Brawololo.RemoteClientSession

/-!
The order in which a remote session speaks. Whatever the transport answers and
in whatever order the session is called, the transport takes at most one login,
and nothing else before it.
-/

namespace Brawololo.LoginOrder

open GameTypes EntityStore NetworkEvents NetworkProtocol Serialization Simulation Client PollLoops
open KcpRtc (TransportState)

universe u v

/-! Lists that begin with the one item of their kind. -/

section Opened

variable {Item : Type v}

def OpenedBy (holds : Item → Bool) (items : List Item) : Prop :=
  ∃ first rest, items = first :: rest ∧ holds first = true ∧ ∀ item ∈ rest, holds item = false

variable {holds : Item → Bool} {items : List Item}

theorem opened_append (opened : OpenedBy holds items) {added : List Item}
    (others : ∀ item ∈ added, holds item = false) : OpenedBy holds (items ++ added) := by
  obtain ⟨first, rest, rfl, isFirst, plain⟩ := opened
  refine ⟨first, rest ++ added, rfl, isFirst, ?_⟩
  intro item member
  rcases List.mem_append.mp member with old | new
  · exact plain item old
  · exact others item new

theorem opened_once (opened : OpenedBy holds items) : (items.filter holds).length = 1 := by
  obtain ⟨first, rest, rfl, isFirst, plain⟩ := opened
  have none : rest.filter holds = [] := by
    rw [List.filter_eq_nil_iff]
    intro item member holdsItem
    rw [plain item member] at holdsItem
    cases holdsItem
  rw [List.filter_cons_of_pos isFirst, none]
  rfl

/-- Before an item of another kind stands the first. -/
theorem opened_precedes (opened : OpenedBy holds items) {earlier later : List Item} {item : Item}
    (split : items = earlier ++ item :: later) (other : holds item = false) :
    ∃ first ∈ earlier, holds first = true := by
  obtain ⟨first, rest, rfl, isFirst, _⟩ := opened
  cases earlier with
  | nil =>
      cases split
      rw [isFirst] at other
      cases other
  | cons head earlier =>
      cases split
      exact ⟨first, List.mem_cons_self, isFirst⟩

end Opened

/-! What the transport took. -/

/-- The envelope of a `Send` that returned true. -/
def takenIn : PumpHappening → Option NetworkEnvelope
  | .handed envelope true => some envelope
  | _ => none

def taken (trace : List PumpHappening) : List NetworkEnvelope := trace.filterMap takenIn

def isLogin (envelope : NetworkEnvelope) : Bool := envelope.messageClass = .loginRequest

/-- What a client sends besides its login. -/
def FollowsLogin (envelope : NetworkEnvelope) : Prop :=
  envelope.messageClass = .clientInput ∨ envelope.messageClass = .timeSyncRequest ∨
    envelope.messageClass = .snapshotAck ∨ envelope.messageClass = .networkEventAck

theorem taken_append (first second : List PumpHappening) :
    taken (first ++ second) = taken first ++ taken second :=
  List.filterMap_append

theorem taken_handed (envelope : NetworkEnvelope) (accepted : Bool) :
    taken [.handed envelope accepted] = if accepted then [envelope] else [] := by
  cases accepted
  · rfl
  · rfl

theorem follows_not_login {envelope : NetworkEnvelope} (follows : FollowsLogin envelope) :
    isLogin envelope = false := by
  unfold isLogin
  rcases follows with isClass | isClass | isClass | isClass
  all_goals rw [isClass]; rfl

/-! One turn of the pump. -/

theorem ack_follows {localReceiveTimeMs : TimestampMs} {localClientId : ClientId}
    {envelope ack : NetworkEnvelope}
    (isAck : ackFor localReceiveTimeMs localClientId envelope = some ack) : FollowsLogin ack := by
  unfold ackFor at isAck
  split at isAck
  · cases isAck
    exact Or.inr (Or.inr (Or.inr rfl))
  · obtain ⟨snapshot, _, rfl⟩ := Option.map_eq_some_iff.mp isAck
    exact Or.inr (Or.inr (Or.inl rfl))

/-- An envelope is of one class, so a response of the clock is acknowledged by
nothing. -/
theorem response_unacked {envelope : NetworkEnvelope} {response : TimeSyncResponse}
    (isResponse : timeSyncResponseIn envelope = some response)
    (localReceiveTimeMs : TimestampMs) (localClientId : ClientId) :
    ackFor localReceiveTimeMs localClientId envelope = none := by
  have isClass : envelope.messageClass = .timeSyncResponse := by
    unfold timeSyncResponseIn at isResponse
    split at isResponse
    · next holds => exact holds.2
    · cases isResponse
  unfold ackFor eventIn snapshotIn
  rw [isClass]
  simp [isEventClass]

/-- A turn of the pump hands the transport the acknowledgement of the envelope. -/
theorem receive_taken (localReceiveTimeMs : TimestampMs) (state : PumpState) (polled : Polled) :
    taken (state.receive localReceiveTimeMs polled).trace = taken state.trace ++
      if polled.ackAccepted then
        (ackFor localReceiveTimeMs state.stats.localClientId polled.envelope).toList
      else [] := by
  unfold PumpState.receive
  split
  · next response isResponse =>
      rw [response_unacked isResponse]
      simp [PumpState.receiveTimeSync]
  · split
    · next networkEvent domainEvent isEvent =>
        unfold PumpState.receiveEvent PumpState.record ackFor
        rw [isEvent]
        dsimp only
        rw [taken_append, taken_append, taken_handed]
        cases polled.ackAccepted <;> simp [taken, takenIn]
    · next noEvent =>
        unfold ackFor
        rw [noEvent]
        split
        · next snapshot isSnapshot =>
            unfold PumpState.receiveSnapshot PumpState.record
            rw [isSnapshot]
            dsimp only
            rw [taken_append, taken_append, taken_handed]
            cases polled.ackAccepted <;> simp [taken, takenIn]
        · next noSnapshot =>
            rw [noSnapshot]
            simp

/-! One call. -/

section Session

variable {Link : Type u} (io : ITransport Link)

/-- What a call makes of a session: it logs in, or it adds no login, and adds
anything at all only after a login. -/
inductive Spoke (before after : RemoteClientSession Link) : Prop
  | loggedIn (login : NetworkEnvelope) (unsent : before.loginSent = false)
      (sent : after.loginSent = true) (isLogin : isLogin login = true)
      (added : taken after.trace = taken before.trace ++ [login])
  | spoke (envelopes : List NetworkEnvelope) (kept : after.loginSent = before.loginSent)
      (added : taken after.trace = taken before.trace ++ envelopes)
      (others : ∀ envelope ∈ envelopes, isLogin envelope = false)
      (allowed : envelopes ≠ [] → before.loginSent = true)

theorem Spoke.silent {before after : RemoteClientSession Link}
    (kept : after.loginSent = before.loginSent) (same : after.trace = before.trace) :
    Spoke before after :=
  .spoke [] kept (by rw [same, List.append_nil]) (by simp) (by simp)

/-- Of the session before a call only the flag and the trace matter. -/
theorem Spoke.of_before {before middle after : RemoteClientSession Link}
    (spoke : Spoke middle after) (flag : middle.loginSent = before.loginSent)
    (trace : middle.trace = before.trace) : Spoke before after := by
  cases spoke with
  | loggedIn login unsent sent isLogin added =>
      rw [trace] at added
      exact .loggedIn login (flag.symm.trans unsent) sent isLogin added
  | spoke envelopes kept added others allowed =>
      rw [trace] at added
      exact .spoke envelopes (kept.trans flag) added others
        fun some => flag.symm.trans (allowed some)

theorem send_keeps (session : RemoteClientSession Link) (envelope : NetworkEnvelope) :
    (session.send io envelope).1.loginSent = session.loginSent ∧
      taken (session.send io envelope).1.trace =
        taken session.trace ++ if (session.send io envelope).2 then [envelope] else [] := by
  unfold RemoteClientSession.send
  split
  · exact ⟨rfl, by simp⟩
  · exact ⟨rfl, by rw [taken_append, taken_handed]⟩

/-- After the login the session may send what is no login. `before` and `after`
are the sessions around the whole call. -/
theorem send_spoke {before after : RemoteClientSession Link} (session : RemoteClientSession Link)
    {envelope : NetworkEnvelope} (sent : before.loginSent = true) (other : isLogin envelope = false)
    (flag : session.loginSent = before.loginSent) (trace : session.trace = before.trace)
    (flag' : after.loginSent = (session.send io envelope).1.loginSent)
    (trace' : after.trace = (session.send io envelope).1.trace) : Spoke before after := by
  obtain ⟨kept, added⟩ := send_keeps io session envelope
  rw [← trace', trace] at added
  refine .spoke _ (flag'.trans (kept.trans flag)) added ?_ fun _ => sent
  intro member isMember
  split at isMember
  · rw [List.mem_singleton.mp isMember]
    exact other
  · cases isMember

theorem try_send_login_spoke (session : RemoteClientSession Link) (nowMs : TimestampMs) :
    Spoke session (session.trySendLogin io nowMs).1 := by
  unfold RemoteClientSession.trySendLogin
  split
  · exact .silent rfl rfl
  · next link isLink =>
      split
      · exact .silent rfl rfl
      · split
        · exact .silent rfl rfl
        · next unsent =>
            dsimp only
            split
            · exact .silent rfl rfl
            · -- the login is sent exactly if the flag is set
              let login := loginEnvelope
                { header := { clientId := session.localClientId, sequence := 0,
                              clientTimestampMs := nowMs } }
              let asked := { session with transport := some (io.state link).2 }
              obtain ⟨_, added⟩ := send_keeps io asked login
              have fresh : session.loginSent = false := Bool.eq_false_iff.mpr unsent
              cases answer : (asked.send io login).2 with
              | true =>
                  rw [answer] at added
                  exact .loggedIn login fresh rfl rfl added
              | false =>
                  rw [answer] at added
                  exact .spoke [] fresh.symm added (by simp) (by simp)

theorem connect_spoke (session : RemoteClientSession Link) (localClientId : ClientId)
    (nowMs : TimestampMs) : Spoke session (session.connect io localClientId nowMs).1 := by
  unfold RemoteClientSession.connect
  split
  · exact .silent rfl rfl
  · dsimp only
    split
    · exact .silent rfl rfl
    · split
      · exact .silent rfl rfl
      · exact Spoke.of_before (try_send_login_spoke io _ nowMs) rfl rfl

theorem send_input_spoke (session : RemoteClientSession Link) (packet : ClientInputPacket) :
    Spoke session (session.sendInput io packet) := by
  unfold RemoteClientSession.sendInput
  split
  · exact .silent rfl rfl
  · next ready =>
      have both : session.sessionActive = true ∧ session.loginSent = true := by simpa using ready
      exact send_spoke io session both.2 rfl rfl rfl rfl rfl

theorem tick_spoke (session : RemoteClientSession Link) (nowMs : TimestampMs) :
    Spoke session (session.tick io nowMs) := by
  unfold RemoteClientSession.tick
  dsimp only
  split
  · exact .silent rfl rfl
  · next link isLink =>
      split
      · exact .silent rfl rfl
      · split
        · exact Spoke.of_before (try_send_login_spoke io _ nowMs) rfl rfl
        · next sent =>
            split
            · exact .silent rfl rfl
            · let numbered :=
                { session with
                  transport := some (io.update link)
                  lastTickTimeMs := nowMs
                  nextTimeSyncSequence := session.nextTimeSyncSequence + 1 }
              have wasSent : session.loginSent = true := by simpa using sent
              exact send_spoke io numbered wasSent rfl rfl rfl rfl rfl

/-- The loop of the pump hands over nothing but acknowledgements. -/
theorem pump_loop_adds (order : PumpState → LoopOrder) (localReceiveTimeMs : TimestampMs)
    (polls : Nat) (start : Link × PumpState) :
    ∃ acks, taken (whileSome (pollEnvelope io) (receiveEnvelope io order localReceiveTimeMs)
        polls start).2.trace = taken start.2.trace ++ acks ∧
      ∀ ack ∈ acks, isLogin ack = false := by
  apply while_kept (fun state : Link × PumpState => ∃ acks,
    taken state.2.trace = taken start.2.trace ++ acks ∧ ∀ ack ∈ acks, isLogin ack = false)
  · exact fun state kept => kept
  · rintro state envelope ⟨acks, added, others⟩
    let ack := ackFor localReceiveTimeMs state.2.stats.localClientId envelope
    refine ⟨acks ++ if (sendAck io ack state.1).1 then ack.toList else [], ?_, ?_⟩
    · refine (receive_taken _ _ _).trans ?_
      rw [added, List.append_assoc]
    · intro ack member
      rcases List.mem_append.mp member with old | new
      · exact others ack old
      · split at new
        · exact follows_not_login (ack_follows (Option.mem_toList.mp new))
        · cases new
  · exact ⟨[], by simp, by simp⟩

theorem pump_spoke (polls : Nat) (order : PumpState → LoopOrder)
    (session : RemoteClientSession Link) (runtime : ClientRuntime) :
    Spoke session (session.pump io polls order runtime).1 := by
  unfold RemoteClientSession.pump
  split
  · exact .silent rfl rfl
  · next link isLink =>
      split
      · exact .silent rfl rfl
      · dsimp only
        split
        · exact Spoke.of_before (try_send_login_spoke io _ _) rfl rfl
        · next sent =>
            obtain ⟨acks, added, others⟩ := pump_loop_adds io order session.lastTickTimeMs polls
              (io.update link, session.pumpState runtime)
            exact .spoke acks rfl added others fun _ => by simpa using sent

theorem remote_step_spoke (session : RemoteClientSession Link) (call : RemoteCall Link) :
    Spoke session (remoteStep io session call) := by
  cases call with
  | connect localClientId nowMs => exact connect_spoke io session localClientId nowMs
  | sendInput packet => exact send_input_spoke io session packet
  | tick nowMs => exact tick_spoke io session nowMs
  | pump polls order runtime => exact pump_spoke io polls order session runtime
  | drainEvents => exact .silent rfl rfl
  | transportChanged change => exact .silent rfl rfl

/-! Runs. -/

/-- Without a login the transport has taken nothing, and after it what it took
begins with it. -/
structure InOrder (session : RemoteClientSession Link) : Prop where
  unsent : session.loginSent = false → taken session.trace = []
  sent : session.loginSent = true → OpenedBy isLogin (taken session.trace)

theorem spoke_in_order {before after : RemoteClientSession Link} (spoke : Spoke before after)
    (inOrder : InOrder before) : InOrder after := by
  cases spoke with
  | loggedIn login unsent sent isLogin added =>
      rw [inOrder.unsent unsent, List.nil_append] at added
      constructor
      · rw [sent]
        intro never
        cases never
      · rw [added]
        exact fun _ => ⟨login, [], rfl, isLogin, by simp⟩
  | spoke envelopes kept added others allowed =>
      constructor
      · intro unsent
        have nothing : envelopes = [] := by
          by_contra some
          have sent := allowed some
          rw [← kept, unsent] at sent
          cases sent
        rw [added, nothing, inOrder.unsent (kept.symm.trans unsent)]
        rfl
      · intro sent
        rw [added]
        exact opened_append (inOrder.sent (kept.symm.trans sent)) others

theorem remote_run_in_order (transport : Option Link) (calls : List (RemoteCall Link)) :
    InOrder (remoteRun io transport calls) := by
  apply Runs.run_invariant (remoteStep io) InOrder
  · exact fun session call => spoke_in_order (remote_step_spoke io session call)
  · exact ⟨fun _ => rfl, fun sent => by cases sent⟩

/-- At most one login is taken, and before anything else that the client sends. -/
theorem login_first_and_once (transport : Option Link) (calls : List (RemoteCall Link)) :
    ((taken (remoteRun io transport calls).trace).filter isLogin).length ≤ 1 ∧
    ∀ earlier envelope later,
      taken (remoteRun io transport calls).trace = earlier ++ envelope :: later →
      FollowsLogin envelope → ∃ login ∈ earlier, isLogin login = true := by
  have inOrder := remote_run_in_order io transport calls
  cases sent : (remoteRun io transport calls).loginSent with
  | false =>
      rw [inOrder.unsent sent]
      refine ⟨Nat.zero_le 1, ?_⟩
      intro earlier envelope later split
      simp at split
  | true =>
      have opened := inOrder.sent sent
      refine ⟨Nat.le_of_eq (opened_once opened), ?_⟩
      intro earlier envelope later split follows
      exact opened_precedes opened split (follows_not_login follows)

end Session

/-- `AsyncConnectTransport` of the tests: it is connected from the second
`Update` on, and takes nothing before. -/
def asyncConnectTransport : ITransport (TransportState × Nat) where
  connect link := (true, (.connecting, link.2))
  update link := (if 1 ≤ link.2 then .connected else link.1, link.2 + 1)
  state link := (link.1, link)
  send _ link := (link.1 = .connected, link)
  poll link := (none, link)

-- The login waits for the connection, and the input for the login.
example (packet : ClientInputPacket) (runtime : ClientRuntime) :
    (taken (remoteRun asyncConnectTransport (some (.disconnected, 0))
      [.connect 3 0, .pump 1 (fun _ => .stored) runtime, .sendInput packet, .tick 16,
        .sendInput packet]).trace).map NetworkEnvelope.messageClass =
      [.loginRequest, .clientInput] := rfl

end Brawololo.LoginOrder
