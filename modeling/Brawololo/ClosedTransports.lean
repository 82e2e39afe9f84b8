import Brawololo.TransportBooks

/-!
Closed RTC transports. The local ready callback refuses to open a transport
that is disconnected or failed; the messages of the signaling set the state
without a look at it. A transport stays closed exactly as long as no message
that opens one arrives while it is closed.
-/

namespace Brawololo.ClosedTransports

open GameTypes NetworkProtocol RtcSignaling RtcChannels KcpRtc TransportBooks

/-! What a call makes of the state. -/

def Down (state : TransportState) : Prop := state = .disconnected ∨ state = .failed

instance (state : TransportState) : Decidable (Down state) := inferInstanceAs (Decidable (_ ∨ _))

theorem not_down_connected : ¬Down .connected := by decide

theorem not_down_connecting : ¬Down .connecting := by decide

/-- A message that connects or starts to connect. -/
def opens (role : KcpRtcRole) : RtcSignalingMessageKind → Bool
  | .offer => role = .server
  | .answer => role = .client
  | .dataChannelReady => true
  | _ => false

def ends : RtcSignalingMessageKind → Bool
  | .leave | .error => true
  | _ => false

def shuts (transport : KcpRtcTransport) : TransportCall → Bool
  | .connect => !transport.connect.1
  | .close => true
  | .receiveSignalingMessage message => admits transport message && ends message.kind
  | _ => false

def reopens (transport : KcpRtcTransport) : TransportCall → Bool
  | .connect => transport.connect.1
  | _ => false

theorem reopens_connect {transport : KcpRtcTransport} {call : TransportCall}
    (other : call ≠ .connect) : reopens transport call = false := by
  cases call with
  | connect => exact absurd rfl other
  | update | close | send | poll | notifyDataChannelReady | pollOutgoingSignal
  | receiveSignalingMessage | pollOutgoingFrame | receiveFrame => rfl

/-- What a call can do to the state of a transport. -/
inductive CallTurn (transport : KcpRtcTransport) (call : TransportCall) : Prop
  | kept (state : (transportStep transport call).state = transport.state)
      (open_ : shuts transport call = false) (other : call ≠ .connect)
  | disconnected (state : (transportStep transport call).state = .disconnected)
      (shut : shuts transport call = true) (other : call ≠ .connect)
  | failed (state : (transportStep transport call).state = .failed)
      (shut : shuts transport call = true) (isConnect : call = .connect)
  | errored (message : RtcSignalingMessage) (isCall : call = .receiveSignalingMessage message)
      (admitted : admits transport message = true) (kind : message.kind = .error)
      (state : (transportStep transport call).state = .failed)
      (shut : shuts transport call = true)
  | started (state : (transportStep transport call).state = .connecting)
      (open_ : shuts transport call = false) (isConnect : call = .connect)
  | notified (before : ¬Down transport.state) (after : ¬Down (transportStep transport call).state)
      (open_ : shuts transport call = false) (other : call ≠ .connect)
  | opened (message : RtcSignalingMessage) (isCall : call = .receiveSignalingMessage message)
      (admitted : admits transport message = true)
      (opening : opens transport.config.role message.kind = true)
      (after : ¬Down (transportStep transport call).state)
      (open_ : shuts transport call = false)

theorem connect_turn (transport : KcpRtcTransport) : CallTurn transport .connect := by
  cases connected : transport.connect.1 with
  | true =>
      apply CallTurn.started
      · unfold transportStep KcpRtcTransport.connect at *
        dsimp only
        split_ifs at connected ⊢ <;> rfl
      · simp [shuts, connected]
      · rfl
  | false =>
      apply CallTurn.failed
      · unfold transportStep KcpRtcTransport.connect at *
        dsimp only at connected ⊢
        split_ifs at connected ⊢
        rfl
      · simp [shuts, connected]
      · rfl

theorem notify_turn (transport : KcpRtcTransport) : CallTurn transport .notifyDataChannelReady := by
  by_cases down : transport.state = .disconnected ∨ transport.state = .failed
  · refine .kept ?_ rfl (by simp)
    unfold transportStep KcpRtcTransport.notifyDataChannelReady
    simp only [if_pos down]
  · refine .notified down ?_ rfl (by simp)
    unfold transportStep KcpRtcTransport.notifyDataChannelReady
    simp only [if_neg down]
    exact not_down_connected

theorem opens_connection {role : KcpRtcRole} {kind : RtcSignalingMessageKind}
    (opening : opens role kind = true) :
    ∃ state phase, connectionAfter role kind = some (state, phase) ∧ ¬Down state := by
  cases kind with
  | dataChannelReady => exact ⟨.connected, .connected, rfl, not_down_connected⟩
  | offer =>
      refine ⟨.connecting, .dataChannelConnecting, ?_, not_down_connecting⟩
      exact if_pos (of_decide_eq_true opening)
  | answer =>
      refine ⟨.connecting, .dataChannelConnecting, ?_, not_down_connecting⟩
      exact if_pos (of_decide_eq_true opening)
  | join | iceCandidate | leave | error => cases opening

theorem quiet_connection {role : KcpRtcRole} {kind : RtcSignalingMessageKind}
    (quiet : opens role kind = false) (goesOn : ends kind = false) :
    connectionAfter role kind = none := by
  cases kind with
  | join | iceCandidate => rfl
  | offer => exact if_neg (of_decide_eq_false quiet)
  | answer => exact if_neg (of_decide_eq_false quiet)
  | dataChannelReady => cases quiet
  | leave | error => cases goesOn

section Messages

variable {transport : KcpRtcTransport} {message : RtcSignalingMessage}

theorem admitted_state (admitted : admits transport message = true) :
    (transport.receiveSignalingMessage message).2.state =
      ((connectionAfter transport.config.role message.kind).getD
        (transport.state, transport.phase)).1 := by
  have connection := congrArg Prod.fst (receive_signaling_connection transport message)
  rw [if_pos admitted] at connection
  exact connection

theorem opening_state (admitted : admits transport message = true)
    (opening : opens transport.config.role message.kind = true) :
    ¬Down (transport.receiveSignalingMessage message).2.state := by
  obtain ⟨state, phase, sets, up⟩ := opens_connection opening
  rw [admitted_state admitted, sets]
  exact up

end Messages

theorem opens_not_ends {role : KcpRtcRole} {kind : RtcSignalingMessageKind}
    (opening : opens role kind = true) : ends kind = false := by
  cases kind with
  | leave | error => cases opening
  | offer | answer | dataChannelReady | join | iceCandidate => rfl

theorem receive_turn (transport : KcpRtcTransport) (message : RtcSignalingMessage) :
    CallTurn transport (.receiveSignalingMessage message) := by
  cases admitted : admits transport message with
  | false =>
      have connection := congrArg Prod.fst (receive_signaling_connection transport message)
      rw [admitted, if_neg Bool.false_ne_true] at connection
      exact .kept connection (by simp [shuts, admitted]) (by simp)
  | true =>
      have state := admitted_state admitted
      cases opening : opens transport.config.role message.kind with
      | true =>
          exact .opened message rfl admitted opening (opening_state admitted opening)
            (by simp [shuts, opens_not_ends opening])
      | false =>
          cases kind : message.kind with
          | leave =>
              rw [kind] at state
              exact .disconnected state (by simp [shuts, admitted, kind, ends]) (by simp)
          | error =>
              rw [kind] at state
              exact .errored message rfl admitted kind state
                (by simp [shuts, admitted, kind, ends])
          | offer | answer | dataChannelReady | join | iceCandidate =>
              have goesOn : ends message.kind = false := by rw [kind]; rfl
              rw [quiet_connection opening goesOn] at state
              exact .kept state (by simp [shuts, goesOn]) (by simp)

theorem call_turn (transport : KcpRtcTransport) (call : TransportCall) : CallTurn transport call := by
  cases call with
  | connect => exact connect_turn transport
  | notifyDataChannelReady => exact notify_turn transport
  | receiveSignalingMessage message => exact receive_turn transport message
  | update => exact .kept rfl rfl (by simp)
  | close => exact .disconnected rfl rfl (by simp)
  | send envelope =>
      refine .kept ?_ rfl (by simp)
      unfold transportStep KcpRtcTransport.send
      dsimp only
      split_ifs <;> rfl
  | poll =>
      refine .kept ?_ rfl (by simp)
      unfold transportStep KcpRtcTransport.poll
      dsimp only
      split <;> rfl
  | pollOutgoingSignal =>
      refine .kept ?_ rfl (by simp)
      unfold transportStep KcpRtcTransport.pollOutgoingSignal
      dsimp only
      split <;> rfl
  | pollOutgoingFrame =>
      refine .kept ?_ rfl (by simp)
      unfold transportStep KcpRtcTransport.pollOutgoingFrame
      dsimp only
      split <;> rfl
  | receiveFrame bytes =>
      refine .kept ?_ rfl (by simp)
      unfold transportStep KcpRtcTransport.receiveFrame
      dsimp only
      split
      · rfl
      · split <;> rfl

/-- A transport that is down sends nothing and takes no frame. -/
theorem down_refuses {transport : KcpRtcTransport} (down : Down transport.state) :
    (∀ envelope, (transport.send envelope).1 = false) ∧
      ∀ bytes, (transport.receiveFrame bytes).1 = false := by
  have unconnected : transport.state ≠ .connected := by
    rintro connected
    rw [connected] at down
    rcases down with disconnected | failed
    · cases disconnected
    · cases failed
  constructor
  · intro envelope
    unfold KcpRtcTransport.send
    by_cases ok : envelope.Ok
    · rw [if_neg (not_not.mpr ok), if_pos unconnected]
    · rw [if_pos ok]
  · intro bytes
    unfold KcpRtcTransport.receiveFrame
    rw [if_pos unconnected]

/-! Sessions. -/

/-- A transport with what was called on it: `shut` from a close, a failed
connect or a processed leave or error until the next successful connect,
`called` from the first connect on. -/
structure Session where
  transport : KcpRtcTransport
  shut : Bool := false
  called : Bool := false

def sessionStep (session : Session) (call : TransportCall) : Session where
  transport := transportStep session.transport call
  shut := shuts session.transport call || session.shut && !reopens session.transport call
  called := session.called || call = .connect

def sessionStart (config : KcpRtcTransportConfig) : Session := { transport := { config } }

def sessionRun (config : KcpRtcTransportConfig) (calls : List TransportCall) : Session :=
  Runs.run sessionStep (sessionStart config) calls

structure StaysClosed (session : Session) : Prop where
  down : session.shut = true → Down session.transport.state
  sends : session.shut = true → ∀ envelope, (session.transport.send envelope).1 = false
  receives : session.shut = true → ∀ bytes, (session.transport.receiveFrame bytes).1 = false
  uncalled : session.called = false → session.transport.state = .disconnected

/-- No message that opens a transport arrives while it is down, and none that
fails it before the first connect. -/
def Respects (session : Session) (call : TransportCall) : Prop :=
  ∀ message, call = .receiveSignalingMessage message →
    admits session.transport message = true →
      (Down session.transport.state →
        opens session.transport.config.role message.kind = false) ∧
      (session.called = false → message.kind ≠ .error)

theorem stays_closed_iff (session : Session) :
    StaysClosed session ↔ (session.shut = true → Down session.transport.state) ∧
      (session.called = false → session.transport.state = .disconnected) := by
  constructor
  · exact fun closed => ⟨closed.down, closed.uncalled⟩
  · rintro ⟨down, uncalled⟩
    exact ⟨down, fun shut => (down_refuses (down shut)).1,
      fun shut => (down_refuses (down shut)).2, uncalled⟩

/-- A transport is down only after something shut it, or before it was called. -/
def Accounted (session : Session) : Prop :=
  Down session.transport.state → session.shut = true ∨ session.called = false

theorem step_accounted (session : Session) (call : TransportCall) (accounted : Accounted session) :
    Accounted (sessionStep session call) := by
  intro down
  have isStep : (sessionStep session call).transport = transportStep session.transport call := rfl
  rw [isStep] at down
  unfold sessionStep
  dsimp only
  cases call_turn session.transport call with
  | kept state open_ other =>
      rw [state] at down
      simpa [open_, reopens_connect other, other] using accounted down
  | disconnected state shut other => simp [shut]
  | failed state shut isConnect => simp [shut]
  | errored message isCall admitted kind state shut => simp [shut]
  | started state open_ isConnect =>
      rw [state] at down
      exact absurd down not_down_connecting
  | notified before after open_ other => exact absurd down after
  | opened message isCall admitted opening after open_ => exact absurd down after

/-- A respectful call keeps a closed session closed. -/
theorem step_closed (session : Session) (call : TransportCall) (closed : StaysClosed session)
    (respects : Respects session call) : StaysClosed (sessionStep session call) := by
  rw [stays_closed_iff] at closed ⊢
  obtain ⟨down, uncalled⟩ := closed
  have opened (before : ¬Down session.transport.state) :
      session.shut = false ∧ session.called = true :=
    ⟨Bool.eq_false_iff.mpr fun shut => before (down shut),
      Bool.of_not_eq_false fun early => before (Or.inl (uncalled early))⟩
  unfold sessionStep
  dsimp only
  cases call_turn session.transport call with
  | kept state open_ other =>
      rw [state]
      simpa [open_, reopens_connect other, other] using And.intro down uncalled
  | disconnected state shut other =>
      rw [state]
      exact ⟨fun _ => Or.inl rfl, fun _ => rfl⟩
  | failed state shut isConnect =>
      rw [state]
      exact ⟨fun _ => Or.inr rfl, fun early => by simp [isConnect] at early⟩
  | errored message isCall admitted kind state shut =>
      -- a respectful peer sends no error before the first call
      rw [state]
      refine ⟨fun _ => Or.inr rfl, fun early => ?_⟩
      have before : session.called = false := by simpa [isCall] using early
      exact absurd kind ((respects message isCall admitted).2 before)
  | started state open_ isConnect =>
      have connected : session.transport.connect.1 = true := by
        rw [isConnect] at open_
        simpa [shuts] using open_
      simp [isConnect, shuts, reopens, connected]
  | notified before after open_ other =>
      obtain ⟨unshut, called⟩ := opened before
      simp [open_, unshut, called]
  | opened message isCall admitted opening after open_ =>
      -- nor what opens a transport that is down
      have before : ¬Down session.transport.state := by
        intro isDown
        rw [(respects message isCall admitted).1 isDown] at opening
        cases opening
      obtain ⟨unshut, called⟩ := opened before
      simp [open_, unshut, called]

/-- A call that leaves the session closed was respectful. -/
theorem step_respected (session : Session) (call : TransportCall) (accounted : Accounted session)
    (closed : StaysClosed (sessionStep session call)) : Respects session call := by
  intro message isCall admitted
  subst isCall
  obtain ⟨down, uncalled⟩ := (stays_closed_iff _).mp closed
  have sameCalled : (sessionStep session (.receiveSignalingMessage message)).called =
      session.called := by simp [sessionStep]
  constructor
  · intro isDown
    by_contra opening
    rw [Bool.not_eq_false] at opening
    have up := opening_state admitted opening
    have sameShut : (sessionStep session (.receiveSignalingMessage message)).shut =
        session.shut := by simp [sessionStep, shuts, reopens, opens_not_ends opening]
    rcases accounted isDown with shut | early
    · exact up (down (sameShut.trans shut))
    · exact up (Or.inl (uncalled (sameCalled.trans early)))
  · intro early kind
    have state := admitted_state admitted
    rw [kind] at state
    have failed : (sessionStep session (.receiveSignalingMessage message)).transport.state =
        .failed := state
    rw [uncalled (sameCalled.trans early)] at failed
    cases failed

/-! Runs. -/

theorem run_accounted (config : KcpRtcTransportConfig) (calls : List TransportCall) :
    Accounted (sessionRun config calls) :=
  Runs.run_invariant sessionStep Accounted step_accounted _ (fun _ => Or.inr rfl) calls

theorem start_closed (config : KcpRtcTransportConfig) : StaysClosed (sessionStart config) := by
  rw [stays_closed_iff]
  exact ⟨fun shut => (Bool.false_ne_true shut).elim, fun _ => rfl⟩

/-- A transport stays closed through a run exactly when every call of the run is
respectful. -/
theorem closed_stays_iff (config : KcpRtcTransportConfig) (calls : List TransportCall) :
    (∀ earlier, earlier <+: calls → StaysClosed (sessionRun config earlier)) ↔
      Runs.EveryStep sessionStep Respects (sessionStart config) calls := by
  induction calls using List.reverseRecOn with
  | nil =>
      refine ⟨fun _ => trivial, fun _ earlier isPrefix => ?_⟩
      rw [List.prefix_nil.mp isPrefix]
      exact start_closed config
  | append_singleton calls call ih =>
      have last : sessionRun config (calls ++ [call]) =
          sessionStep (sessionRun config calls) call := Runs.run_append _ _ _ _
      rw [Runs.every_step_append, ← ih]
      constructor
      · intro closed
        have before : ∀ earlier, earlier <+: calls → StaysClosed (sessionRun config earlier) :=
          fun earlier isPrefix => closed earlier (isPrefix.trans (List.prefix_append _ _))
        have after := closed (calls ++ [call]) (List.prefix_refl _)
        rw [last] at after
        exact ⟨before, step_respected _ call (run_accounted config calls) after, trivial⟩
      · rintro ⟨closed, respects, _⟩ earlier isPrefix
        rcases List.prefix_concat_iff.mp isPrefix with rfl | shorter
        · rw [last]
          exact step_closed _ call (closed calls (List.prefix_refl _)) respects
        · exact closed earlier shorter

/-- A client that called `Close` is connected by a late ready signal. -/
theorem closed_transport_opened :
    ¬∀ (config : KcpRtcTransportConfig) (calls : List TransportCall),
      StaysClosed (sessionRun config calls) := by
  intro all
  have closed := all
    { role := .client, localPeerId := 1, peerName := [99], signalingUrl := [109] }
    [.connect, .close, .receiveSignalingMessage
      { kind := .dataChannelReady, senderPeerId := 2, targetPeerId := 1, sequence := 2,
        sessionId := "default".toUTF8.toList }]
  exact absurd (closed.down (by decide +kernel)) (by decide +kernel)

end Brawololo.ClosedTransports
