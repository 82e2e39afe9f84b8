import Brawololo.RtcDelivery

/-!
Completion of the handshake. `Join` and `Offer` are posted once, by the
client's first pump after its `Connect`, and the hub routes them to whoever is
registered then: the handshake completes when the server is, and never does
when it is not.
-/

namespace Brawololo.RtcCompletion

open GameTypes RtcSignaling RtcChannels KcpRtc RtcPairs RtcPumps RtcHandshake RtcDelivery

/-! The statement. -/

/-- No signal is queued, neither in the transports nor in the hub. -/
structure Quiet (pair : RtcPair) : Prop where
  transports : ∀ side, (pair.side side).transport.outgoingSignals = []
  hub : ∀ side, ∀ entry ∈ (pair.side side).signalingClient.hub.peers.toList,
    entry.2.incoming = []

/-- Both sides have called `Connect` and no signal is queued anywhere. -/
structure Settled (calls : List RtcCall) (pair : RtcPair) : Prop where
  called : ∀ side, RtcCall.connect side ∈ calls
  quiet : Quiet pair

/-- The signals of the pair are within what the wire carries. -/
structure Fits (config : InMemoryKcpRtcTransportPairConfig) : Prop where
  session : config.sessionId.length ≤ 256
  label : config.dataChannelLabel.length ≤ kMaxRtcSignalingPayloadBytes

/-- The handshake is over and some side is not connected. -/
structure Deadlocked (calls : List RtcCall) (pair : RtcPair) : Prop where
  settled : Settled calls pair
  unconnected : ∃ side, (pair.side side).transport.state ≠ .connected

theorem fits_iff {config : InMemoryKcpRtcTransportPairConfig} (valid : ValidPair config) :
    Fits config ↔ Carried (offerOf config) := by
  constructor
  · rintro ⟨session, label⟩
    refine ⟨?_, session⟩
    rw [message_ok_iff]
    exact ⟨valid.client, valid.session, label⟩
  · rintro ⟨ok, session⟩
    exact ⟨session, ((message_ok_iff _).mp ok).2.2⟩

/-- In a quiet pair nothing waits for a side that has connected. -/
theorem quiet_queue {config : InMemoryKcpRtcTransportPairConfig} {heard : Prop}
    {stages : Side → Stage} {queues : Side → List RtcSignalingMessage} {pair : RtcPair}
    (pairAt : PairAt config heard stages queues pair) (quiet : Quiet pair) {side : Side}
    (present : stages side ≠ .idle) : queues side = [] := by
  have stored := (pairAt.hubAt side side).trans (if_neg present)
  have listed := Std.ExtTreeMap.mem_toList_iff_getElem?_eq_some.mpr stored
  exact List.map_eq_nil_iff.mp (quiet.hub side _ listed)

/-- When the handshake is over, both sides are connected if and only if its
signals fit the wire and no call pumped the client after its `Connect` and
before the server's. -/
theorem handshake_completes_iff (config : InMemoryKcpRtcTransportPairConfig)
    (valid : ValidPair config) (calls : List RtcCall) (once : ConnectsOnce calls)
    (settled : Settled calls (rtcRun config calls).pair) :
    (∀ side, ((rtcRun config calls).pair.side side).transport.state = .connected) ↔
      Fits config ∧ Listened calls := by
  obtain ⟨stages, queues, held⟩ := run_held valid calls once
  have present (side : Side) : stages side ≠ .idle := (held.called side).mpr (settled.called side)
  have clientQueue := quiet_queue held.pairAt settled.quiet (present .client)
  have serverQueue := quiet_queue held.pairAt settled.quiet (present .server)
  have clientState := (held.pairAt.placed .client).transport.state
  have serverState := (held.pairAt.placed .server).transport.state
  have greeted := (held.pairAt.placed .client).transport.outgoing
  rw [settled.quiet.transports .client] at greeted
  have talk := held.pairAt.talk
  have here := present .client
  generalize stages .client = client at talk clientState greeted here
  generalize stages .server = server at talk serverState
  generalize queues .client = toClient at talk clientQueue
  generalize queues .server = toServer at talk serverQueue
  cases talk with
  | unannounced listened early =>
      rcases early with rfl | rfl
      · exact absurd rfl here
      · cases greeted
  | lost missed =>
      refine iff_of_false ?_ ?_
      · intro connected
        have state := (connected .client).symm.trans clientState
        cases state
      · rintro ⟨fits, listened⟩
        exact missed ⟨listened, (fits_iff valid).mp fits⟩
  | offered => cases serverQueue
  | answered => simp at clientQueue
  | opened listened carried =>
      refine iff_of_true ?_ ⟨(fits_iff valid).mpr carried, listened⟩
      exact either_side .client clientState serverState

/-- The server connects first. -/
def serverFirst : List RtcCall :=
  [.connect .server, .connect .client, .update .client, .update .server, .update .client]

/-- The client updates before the server has connected. -/
def clientAlone : List RtcCall :=
  [.connect .client, .update .client, .connect .server, .update .server, .update .client]

theorem default_valid : ValidPair {} :=
  ⟨by decide, by decide, by decide, by decide +kernel, by decide +kernel, by decide⟩

theorem default_fits : Fits {} := ⟨by decide +kernel, by decide +kernel⟩

theorem handshake_completes_server_first :
    ((rtcRun {} serverFirst).pair.side .client).transport.state = .connected ∧
      ((rtcRun {} serverFirst).pair.side .server).transport.state = .connected := by
  have settled : Settled serverFirst (rtcRun {} serverFirst).pair := by
    refine ⟨fun side => ?_, fun side => ?_, fun side => ?_⟩
    · cases side <;> decide
    · cases side <;> decide +kernel
    · cases side <;> decide +kernel
  have listened : Listened serverFirst := by
    rintro earlier call later split pump member
    cases earlier with
    | nil => cases member
    | cons first rest => exact List.mem_cons.mpr (Or.inl (List.cons.inj split).1)
  have completed := (handshake_completes_iff {} default_valid serverFirst
    (by intro side; cases side <;> decide) settled).mpr ⟨default_fits, listened⟩
  exact ⟨completed .client, completed .server⟩

/-- The join and the offer of a client that pumps alone are lost. -/
theorem handshake_deadlocks : ¬∀ config, ValidPair config → ∀ calls, ConnectsOnce calls →
    ¬Deadlocked calls (rtcRun config calls).pair := by
  intro never
  apply never {} default_valid clientAlone (by intro side; cases side <;> decide)
  refine ⟨⟨fun side => ?_, fun side => ?_, fun side => ?_⟩, .client, ?_⟩
  · cases side <;> decide
  · cases side <;> decide +kernel
  · cases side <;> decide +kernel
  · decide +kernel

end Brawololo.RtcCompletion
