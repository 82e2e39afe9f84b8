import Brawololo.ServerNetworkHost

/-!
What the network host owes its clients, without the code that keeps it: a
record of what was numbered, sent and acknowledged, the snapshots held as
baselines, and for each client its last acknowledgement and its events still to
be acknowledged. A move is one thing the host may do to these books. Which
baseline is dropped from a cache, and which transport refuses, is left open.
-/

namespace Brawololo.DeliveryBooks

open GameTypes EntityStore NetworkEvents Server ServerClientReplicationState

structure Account where
  acked : SnapshotId := 0
  pending : NetworkEventId → Option PendingReliableEvent := fun _ => none

/-- The account after an event was sent to its client. -/
def Account.track (account : Account) (event : NetworkEventDTO) (nowMs : TimestampMs) : Account :=
  { account with
    pending := Function.update account.pending event.eventId
      (some (trackedEntry event nowMs ((account.pending event.eventId).getD {}))) }

structure Books where
  trace : Trace := []
  nextSnapshotId : SnapshotId := 1
  nextEventId : NetworkEventId := 1
  held : ClientId → List SnapshotDTO := fun _ => []
  accounts : ClientId → Option Account := fun _ => none

namespace Books

def record (books : Books) (happening : Happening) : Books :=
  { books with trace := books.trace ++ [happening] }

def setAccount (books : Books) (clientId : ClientId) (account : Account) : Books :=
  { books with accounts := Function.update books.accounts clientId (some account) }

@[simp] theorem record_accounts (books : Books) (happening : Happening) :
    (books.record happening).accounts = books.accounts := rfl

@[simp] theorem set_account_trace (books : Books) (clientId : ClientId) (account : Account) :
    (books.setAccount clientId account).trace = books.trace := rfl

theorem set_account_get (books : Books) (clientId other : ClientId) (account : Account) :
    (books.setAccount clientId account).accounts other =
      if other = clientId then some account else books.accounts other := by
  simp [setAccount, Function.update_apply]

end Books

/-- What a planned snapshot may name as its baseline: nothing, or the client's
last acknowledged snapshot while it is still held. -/
inductive Planned (held : List SnapshotDTO) (acked : SnapshotId) (planned : SnapshotDTO) :
    Option SnapshotDTO → Prop where
  | full (kind : planned.deliveryKind = .full) (zero : planned.baselineId = 0) :
      Planned held acked planned none
  | delta (baseline : SnapshotDTO) (kind : planned.deliveryKind = .deltaEligible)
      (names : planned.baselineId = acked) (nonzero : acked ≠ 0) (isHeld : baseline ∈ held)
      (isAcked : baseline.snapshotId = acked) : Planned held acked planned (some baseline)

/-- The event took the last event id, and since then it went to others only. -/
def Announces (trace : Trace) (clientId : ClientId) (event : NetworkEventDTO) : Prop :=
  ∃ earlier since, trace = earlier ++ .eventNumbered event.eventId :: since ∧
    ∀ happening ∈ since, ∃ other accepted,
      happening = .handed other (.event event false) accepted ∧ other ≠ clientId

/-- The account after the transport answered to an event. -/
def Account.answered (account : Account) (event : NetworkEventDTO) (nowMs : TimestampMs)
    (accepted : Bool) : Account :=
  if accepted then account.track event nowMs else account

inductive Move (maxSendCount : UInt32) (books : Books) : Books → Prop where
  | enrolled (clientId : ClientId) (new : books.accounts clientId = none) :
      Move maxSendCount books (books.setAccount clientId {})
  | snapshotNumbered :
      Move maxSendCount books
        ({ books with nextSnapshotId := books.nextSnapshotId + 1 }.record
          (.snapshotNumbered books.nextSnapshotId))
  | snapshotSent (clientId : ClientId) (planned : SnapshotDTO) (baseline : Option SnapshotDTO)
      (accepted : Bool) (account : Account) (earlier : Trace)
      (has : books.accounts clientId = some account)
      (numbered : books.trace = earlier ++ [.snapshotNumbered planned.snapshotId])
      (plan : Planned (books.held clientId) account.acked planned baseline) :
      Move maxSendCount books
        (books.record (.handed clientId (.snapshot planned baseline) accepted))
  | baselineHeld (clientId : ClientId) (planned : SnapshotDTO) (baseline : Option SnapshotDTO)
      (now : List SnapshotDTO)
      (sent : Happening.handed clientId (.snapshot planned baseline) true ∈ books.trace)
      (kept : ∀ snapshot ∈ now, snapshot ∈ books.held clientId ∨ snapshot = planned) :
      Move maxSendCount books { books with held := Function.update books.held clientId now }
  | snapshotAcked (clientId : ClientId) (snapshotId : SnapshotId) (account : Account)
      (has : books.accounts clientId = some account)
      (isHeld : ∃ snapshot ∈ books.held clientId, snapshot.snapshotId = snapshotId)
      (newer : account.acked < snapshotId) :
      Move maxSendCount books
        ((books.setAccount clientId { account with acked := snapshotId }).record
          (.snapshotAcked clientId snapshotId))
  | eventNumbered :
      Move maxSendCount books
        ({ books with nextEventId := books.nextEventId + 1 }.record
          (.eventNumbered books.nextEventId))
  | eventSent (clientId : ClientId) (event : NetworkEventDTO) (nowMs : TimestampMs)
      (accepted : Bool) (account : Account) (has : books.accounts clientId = some account)
      (announces : Announces books.trace clientId event) :
      Move maxSendCount books
        ((books.setAccount clientId (account.answered event nowMs accepted)).record
          (.handed clientId (.event event false) accepted))
  | eventResent (clientId : ClientId) (event : NetworkEventDTO) (nowMs : TimestampMs)
      (accepted : Bool) (account : Account) (entry : PendingReliableEvent)
      (has : books.accounts clientId = some account)
      (pends : account.pending event.eventId = some entry) (same : entry.event = event)
      (below : belowCap maxSendCount entry = true) :
      Move maxSendCount books
        ((books.setAccount clientId (account.answered event nowMs accepted)).record
          (.handed clientId (.event event true) accepted))
  | timeSynced (clientId : ClientId) (response : TimeSyncResponse) (accepted : Bool) :
      Move maxSendCount books (books.record (.handed clientId (.timeSync response) accepted))
  | eventAcked (clientId : ClientId) (eventId : NetworkEventId) (account : Account)
      (entry : PendingReliableEvent) (has : books.accounts clientId = some account)
      (pends : account.pending eventId = some entry) :
      Move maxSendCount books
        ((books.setAccount clientId
            { account with pending := Function.update account.pending eventId none }).record
          (.eventAcked clientId eventId))

def Moves (maxSendCount : UInt32) : Books → Books → Prop :=
  Relation.ReflTransGen (Move maxSendCount)

theorem Moves.refl {maxSendCount : UInt32} (books : Books) : Moves maxSendCount books books :=
  Relation.ReflTransGen.refl

theorem Moves.trans {maxSendCount : UInt32} {first second third : Books}
    (left : Moves maxSendCount first second) (right : Moves maxSendCount second third) :
    Moves maxSendCount first third :=
  Relation.ReflTransGen.trans left right

theorem Move.moves {maxSendCount : UInt32} {before after : Books}
    (move : Move maxSendCount before after) : Moves maxSendCount before after :=
  Relation.ReflTransGen.single move

/-- Nothing is ever taken back from the record. -/
theorem move_trace {maxSendCount : UInt32} {before after : Books}
    (move : Move maxSendCount before after) : ∃ added, after.trace = before.trace ++ added := by
  cases move with
  | enrolled => exact ⟨[], (List.append_nil _).symm⟩
  | baselineHeld => exact ⟨[], (List.append_nil _).symm⟩
  | snapshotNumbered => exact ⟨_, rfl⟩
  | snapshotSent => exact ⟨_, rfl⟩
  | snapshotAcked => exact ⟨_, rfl⟩
  | eventNumbered => exact ⟨_, rfl⟩
  | eventSent => exact ⟨_, rfl⟩
  | eventResent => exact ⟨_, rfl⟩
  | timeSynced => exact ⟨_, rfl⟩
  | eventAcked => exact ⟨_, rfl⟩

theorem moves_trace {maxSendCount : UInt32} {before after : Books}
    (moves : Moves maxSendCount before after) :
    ∃ added, after.trace = before.trace ++ added := by
  induction moves with
  | refl => exact ⟨[], (List.append_nil _).symm⟩
  | tail _ move ih =>
      obtain ⟨first, toMiddle⟩ := ih
      obtain ⟨second, toEnd⟩ := move_trace move
      exact ⟨first ++ second, by rw [toEnd, toMiddle, List.append_assoc]⟩

/-- An invariant that every move keeps holds in all books the moves reach. -/
theorem moves_invariant {maxSendCount : UInt32} (holds : Books → Prop)
    (kept : ∀ before after, Move maxSendCount before after → holds before → holds after)
    {before after : Books} (moves : Moves maxSendCount before after) (initially : holds before) :
    holds after := by
  induction moves with
  | refl => exact initially
  | tail _ move ih => exact kept _ _ move ih

end Brawololo.DeliveryBooks
