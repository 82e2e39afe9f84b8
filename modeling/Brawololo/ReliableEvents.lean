import Brawololo.DeltaBaselines
import Brawololo.HostTurns

/-!
Reliable events of the network host. A client owes the acknowledgement of every
event that was created for it; the host keeps in its pending set only what a
transport has taken. The two agree as long as every first send is taken and no
id is given again to a client that has still to acknowledge it.
-/

namespace Brawololo.ReliableEvents

open GameTypes NetworkEvents Server ServerClientReplicationState ServerNetworkHost
open DeliveryBooks HostBookkeeping HostTurns DeltaBaselines Histories

/-! The statement. -/

def Acks (clientId : ClientId) (eventId : NetworkEventId) (happening : Happening) : Prop :=
  happening = .eventAcked clientId eventId

/-- The event was created for the client, and since then no acknowledgement of
its id from the client was accepted. -/
def Owed (trace : Trace) (clientId : ClientId) (event : NetworkEventDTO) : Prop :=
  Since (fun happening => ∃ accepted, happening = .handed clientId (.event event false) accepted)
    (Acks clientId event.eventId) trace

/-- The transport took the event for the client, and no acknowledgement since. -/
def Awaited (trace : Trace) (clientId : ClientId) (event : NetworkEventDTO) : Prop :=
  Since (fun happening => ∃ isResend, happening = .handed clientId (.event event isResend) true)
    (Acks clientId event.eventId) trace

/-- The event is in the client's pending reliable event set. -/
def Pending (host : ServerNetworkHost) (clientId : ClientId) (event : NetworkEventDTO) : Prop :=
  ∃ state entry, host.clientStateById[clientId]? = some state ∧
    state.pendingReliableEvents[event.eventId]? = some entry ∧ entry.event = event

def EventsKept (host : ServerNetworkHost) : Prop :=
  ∀ clientId event, Owed host.trace clientId event → Pending host clientId event

/-- A first send is taken, or its event is awaited already; and no other event
is awaited under its id. -/
def FirstSendTaken (earlier : Trace) (happening : Happening) : Prop :=
  ∀ clientId event accepted, happening = .handed clientId (.event event false) accepted →
    (accepted = true ∨ Awaited earlier clientId event) ∧
    ∀ other, Awaited earlier clientId other → other.eventId = event.eventId → other = event

def numberedEventId : Happening → Option NetworkEventId
  | .eventNumbered eventId => some eventId
  | _ => none

def eventsNumbered (trace : Trace) : Nat := (trace.filterMap numberedEventId).length

/-! What a move does to the pending events. -/

def pendingOf (books : Books) (clientId : ClientId) (eventId : NetworkEventId) :
    Option PendingReliableEvent :=
  (books.accounts clientId).bind fun account => account.pending eventId

theorem pending_iff (host : ServerNetworkHost) (clientId : ClientId) (event : NetworkEventDTO) :
    Pending host clientId event ↔
      ∃ entry, pendingOf (booksOf host) clientId event.eventId = some entry ∧
        entry.event = event := by
  unfold Pending pendingOf booksOf
  dsimp only
  cases host.clientStateById[clientId]? with
  | none => simp
  | some state => simp [accountOf]

/-- Happenings that are not about events. -/
def NotAboutEvents (happening : Happening) : Prop :=
  (∀ clientId event isResend accepted,
    happening ≠ .handed clientId (.event event isResend) accepted) ∧
  ∀ clientId eventId, happening ≠ .eventAcked clientId eventId

inductive EventMove (maxSendCount : UInt32) (before after : Books) : Prop
  | quiet (added : Trace) (trace : after.trace = before.trace ++ added)
      (silent : ∀ happening ∈ added, NotAboutEvents happening)
      (pending : ∀ clientId eventId,
        pendingOf after clientId eventId = pendingOf before clientId eventId)
  | sent (clientId : ClientId) (event : NetworkEventDTO) (isResend accepted : Bool)
      (nowMs : TimestampMs)
      (trace : after.trace =
        before.trace ++ [.handed clientId (.event event isResend) accepted])
      (pending : ∀ other eventId, pendingOf after other eventId =
        if accepted = true ∧ other = clientId ∧ eventId = event.eventId then
          some (trackedEntry event nowMs ((pendingOf before clientId event.eventId).getD {}))
        else pendingOf before other eventId)
      (first : isResend = false → Announces before.trace clientId event)
      (again : isResend = true → ∃ entry, pendingOf before clientId event.eventId = some entry ∧
        entry.event = event ∧ belowCap maxSendCount entry = true)
  | acked (clientId : ClientId) (eventId : NetworkEventId) (entry : PendingReliableEvent)
      (trace : after.trace = before.trace ++ [.eventAcked clientId eventId])
      (pending : ∀ other otherId, pendingOf after other otherId =
        if other = clientId ∧ otherId = eventId then none else pendingOf before other otherId)
      (pends : pendingOf before clientId eventId = some entry)

theorem pending_of_set (books : Books) (clientId : ClientId) (account : Account)
    (other : ClientId) (eventId : NetworkEventId) :
    pendingOf (books.setAccount clientId account) other eventId =
      if other = clientId then account.pending eventId else pendingOf books other eventId := by
  unfold pendingOf
  rw [Books.set_account_get]
  split
  · rfl
  · rfl

theorem pending_of_account {books : Books} {clientId : ClientId} {account : Account}
    (has : books.accounts clientId = some account) (eventId : NetworkEventId) :
    pendingOf books clientId eventId = account.pending eventId := by
  rw [pendingOf, has, Option.bind_some]

theorem answered_pending (account : Account) (event : NetworkEventDTO) (nowMs : TimestampMs)
    (accepted : Bool) (eventId : NetworkEventId) :
    (account.answered event nowMs accepted).pending eventId =
      if accepted = true ∧ eventId = event.eventId then
        some (trackedEntry event nowMs ((account.pending event.eventId).getD {}))
      else account.pending eventId := by
  cases accepted with
  | false => simp [Account.answered]
  | true => simp [Account.answered, Account.track, Function.update_apply]

theorem sent_pending {books : Books} {clientId : ClientId} {account : Account}
    (has : books.accounts clientId = some account) (event : NetworkEventDTO)
    (nowMs : TimestampMs) (accepted : Bool) (happening : Happening) (other : ClientId)
    (eventId : NetworkEventId) :
    pendingOf ((books.setAccount clientId (account.answered event nowMs accepted)).record
        happening) other eventId =
      if accepted = true ∧ other = clientId ∧ eventId = event.eventId then
        some (trackedEntry event nowMs ((pendingOf books clientId event.eventId).getD {}))
      else pendingOf books other eventId := by
  refine (pending_of_set books clientId _ other eventId).trans ?_
  rw [answered_pending, pending_of_account has]
  by_cases mine : other = clientId
  · subst mine
    simp [pending_of_account has]
  · simp [mine]

theorem move_event_move (maxSendCount : UInt32) {before after : Books}
    (move : Move maxSendCount before after) : EventMove maxSendCount before after := by
  have quietly (happening : Happening) (isQuiet : NotAboutEvents happening)
      (trace : after.trace = before.trace ++ [happening])
      (pending : ∀ clientId eventId,
        pendingOf after clientId eventId = pendingOf before clientId eventId) :
      EventMove maxSendCount before after := by
    refine .quiet [happening] trace ?_ pending
    intro other member
    rw [List.mem_singleton.mp member]
    exact isQuiet
  cases move with
  | enrolled clientId new =>
      refine .quiet [] (List.append_nil _).symm (by simp) fun other eventId => ?_
      rw [pending_of_set]
      split
      · next same => rw [same, pendingOf, new]; rfl
      · rfl
  | baselineHeld =>
      exact .quiet [] (List.append_nil _).symm (by simp) fun _ _ => rfl
  | snapshotNumbered => exact quietly _ ⟨by simp, by simp⟩ rfl fun _ _ => rfl
  | snapshotSent => exact quietly _ ⟨by simp, by simp⟩ rfl fun _ _ => rfl
  | eventNumbered => exact quietly _ ⟨by simp, by simp⟩ rfl fun _ _ => rfl
  | timeSynced => exact quietly _ ⟨by simp, by simp⟩ rfl fun _ _ => rfl
  | snapshotAcked clientId snapshotId account has =>
      refine quietly _ ⟨by simp, by simp⟩ rfl fun other eventId => ?_
      refine (pending_of_set before clientId _ other eventId).trans ?_
      split
      · next same => rw [same, pending_of_account has]
      · rfl
  | eventSent clientId event nowMs accepted account has announces =>
      exact .sent clientId event false accepted nowMs rfl (sent_pending has event nowMs accepted _)
        (fun _ => announces) (by simp)
  | eventResent clientId event nowMs accepted account entry has pends same below =>
      exact .sent clientId event true accepted nowMs rfl (sent_pending has event nowMs accepted _)
        (by simp) fun _ => ⟨entry, (pending_of_account has _).trans pends, same, below⟩
  | eventAcked clientId eventId account entry has pends =>
      refine .acked clientId eventId entry rfl (fun other otherId => ?_)
        ((pending_of_account has _).trans pends)
      refine (pending_of_set before clientId _ other otherId).trans ?_
      dsimp only
      rw [Function.update_apply]
      by_cases mine : other = clientId
      · subst mine
        simp [pending_of_account has]
      · simp [mine]

/-! What the pending set and the record say about each other. -/

theorem awaited_quiet (trace : Trace) {added : Trace}
    (silent : ∀ happening ∈ added, NotAboutEvents happening) (clientId : ClientId)
    (event : NetworkEventDTO) :
    Awaited (trace ++ added) clientId event ↔ Awaited trace clientId event := by
  apply since_append
  intro happening member
  refine ⟨?_, (silent happening member).2 clientId event.eventId⟩
  rintro ⟨isResend, same⟩
  exact (silent happening member).1 clientId event isResend true same

theorem awaited_sent (trace : Trace) (clientId : ClientId) (event : NetworkEventDTO)
    (isResend accepted : Bool) (other : ClientId) (otherEvent : NetworkEventDTO) :
    Awaited (trace ++ [.handed clientId (.event event isResend) accepted]) other otherEvent ↔
      (accepted = true ∧ other = clientId ∧ otherEvent = event) ∨
        Awaited trace other otherEvent := by
  unfold Awaited
  rw [since_concat]
  refine or_congr ?_ ?_
  · constructor
    · rintro ⟨_, same⟩
      cases same
      exact ⟨rfl, rfl, rfl⟩
    · rintro ⟨rfl, rfl, rfl⟩
      exact ⟨isResend, rfl⟩
  · exact and_iff_left (by simp [Acks])

theorem awaited_acked (trace : Trace) (clientId : ClientId) (eventId : NetworkEventId)
    (other : ClientId) (event : NetworkEventDTO) :
    Awaited (trace ++ [.eventAcked clientId eventId]) other event ↔
      Awaited trace other event ∧ ¬(other = clientId ∧ event.eventId = eventId) := by
  unfold Awaited
  rw [since_concat]
  simp only [reduceCtorEq, exists_false, false_or, Acks, Happening.eventAcked.injEq]
  simp only [eq_comm]

/-- A pending event was sent first and taken, and it is still awaited. -/
structure Filed (books : Books) : Prop where
  own : ∀ clientId eventId entry, pendingOf books clientId eventId = some entry →
    entry.event.eventId = eventId
  taken : ∀ clientId eventId entry, pendingOf books clientId eventId = some entry →
    Happening.handed clientId (.event entry.event false) true ∈ books.trace
  awaited : ∀ clientId eventId entry, pendingOf books clientId eventId = some entry →
    Awaited books.trace clientId entry.event

/-- Tracking an event files it, or keeps the event that is filed. -/
theorem tracked_event (event : NetworkEventDTO) (nowMs : TimestampMs)
    (old : Option PendingReliableEvent) :
    (trackedEntry event nowMs (old.getD {})).event = event ∨
      ∃ entry, old = some entry ∧
        (trackedEntry event nowMs (old.getD {})).event = entry.event := by
  unfold trackedEntry
  cases old with
  | none => exact Or.inl rfl
  | some entry =>
      dsimp only [Option.getD_some]
      split
      · exact Or.inl rfl
      · exact Or.inr ⟨entry, rfl, rfl⟩

/-- What stays filed after an event was handed over is the event that was taken just
now, or was filed before. -/
theorem sent_source {before after : Books} {clientId : ClientId} {event : NetworkEventDTO}
    {isResend accepted : Bool} {nowMs : TimestampMs}
    (pending : ∀ other eventId, pendingOf after other eventId =
      if accepted = true ∧ other = clientId ∧ eventId = event.eventId then
        some (trackedEntry event nowMs ((pendingOf before clientId event.eventId).getD {}))
      else pendingOf before other eventId)
    (again : isResend = true → ∃ entry, pendingOf before clientId event.eventId = some entry ∧
      entry.event = event) {other : ClientId} {eventId : NetworkEventId}
    {entry : PendingReliableEvent} (pends : pendingOf after other eventId = some entry) :
    (accepted = true ∧ other = clientId ∧ eventId = event.eventId ∧ entry.event = event ∧
      (isResend = true → ∃ old, pendingOf before other eventId = some old ∧ old.event = event)) ∨
    ∃ old, pendingOf before other eventId = some old ∧ entry.event = old.event := by
  rw [pending] at pends
  split at pends
  · next updated =>
      obtain ⟨taken, rfl, rfl⟩ := updated
      cases pends
      rcases tracked_event event nowMs (pendingOf before other event.eventId) with
        same | ⟨old, isOld, same⟩
      · exact Or.inl ⟨taken, rfl, rfl, same, again⟩
      · exact Or.inr ⟨old, isOld, same⟩
  · exact Or.inr ⟨entry, pends, rfl⟩

/-- What stays filed after an acknowledgement was filed before, and is not the
acknowledged event. -/
theorem acked_source {before after : Books} {clientId : ClientId} {eventId : NetworkEventId}
    (pending : ∀ other otherId, pendingOf after other otherId =
      if other = clientId ∧ otherId = eventId then none else pendingOf before other otherId)
    {other : ClientId} {otherId : NetworkEventId} {entry : PendingReliableEvent}
    (stays : pendingOf after other otherId = some entry) :
    ¬(other = clientId ∧ otherId = eventId) ∧ pendingOf before other otherId = some entry := by
  rw [pending] at stays
  split at stays
  · cases stays
  · next apart => exact ⟨apart, stays⟩

theorem move_filed (maxSendCount : UInt32) (before after : Books)
    (move : Move maxSendCount before after) (filed : Filed before) : Filed after := by
  cases move_event_move maxSendCount move with
  | quiet added trace silent pending =>
      refine ⟨?_, ?_, ?_⟩
      · intro clientId eventId entry pends
        rw [pending] at pends
        exact filed.own clientId eventId entry pends
      · intro clientId eventId entry pends
        rw [pending] at pends
        rw [trace]
        exact List.mem_append_left _ (filed.taken clientId eventId entry pends)
      · intro clientId eventId entry pends
        rw [pending] at pends
        rw [trace, awaited_quiet _ silent]
        exact filed.awaited clientId eventId entry pends
  | sent clientId event isResend accepted nowMs trace pending first again =>
      have resent (isAgain : isResend = true) : ∃ entry,
          pendingOf before clientId event.eventId = some entry ∧ entry.event = event :=
        (again isAgain).imp fun _ found => ⟨found.1, found.2.1⟩
      refine ⟨?_, ?_, ?_⟩
      · intro other eventId entry pends
        rcases sent_source pending resent pends with ⟨_, _, sameId, same, _⟩ | ⟨old, isOld, same⟩
        · rw [same, sameId]
        · rw [same]
          exact filed.own other eventId old isOld
      · intro other eventId entry pends
        rw [trace]
        rcases sent_source pending resent pends with
          ⟨taken, rfl, rfl, same, older⟩ | ⟨old, isOld, same⟩
        · cases isResend with
          | false =>
              rw [same, taken]
              exact List.mem_append_right _ (List.mem_singleton.mpr rfl)
          | true =>
              obtain ⟨old, isOld, sameOld⟩ := older rfl
              rw [same, ← sameOld]
              exact List.mem_append_left _ (filed.taken other _ old isOld)
        · rw [same]
          exact List.mem_append_left _ (filed.taken other eventId old isOld)
      · intro other eventId entry pends
        rw [trace, awaited_sent]
        rcases sent_source pending resent pends with
          ⟨taken, rfl, _, same, _⟩ | ⟨old, isOld, same⟩
        · exact Or.inl ⟨taken, rfl, same⟩
        · rw [same]
          exact Or.inr (filed.awaited other eventId old isOld)
  | acked clientId eventId gone trace pending pends =>
      refine ⟨?_, ?_, ?_⟩
      · intro other otherId entry stays
        exact filed.own other otherId entry (acked_source pending stays).2
      · intro other otherId entry stays
        rw [trace]
        exact List.mem_append_left _
          (filed.taken other otherId entry (acked_source pending stays).2)
      · intro other otherId entry stays
        obtain ⟨apart, was⟩ := acked_source pending stays
        rw [trace, awaited_acked]
        refine ⟨filed.awaited other otherId entry was, ?_⟩
        rw [filed.own other otherId entry was]
        exact apart

/-- Every awaited event is pending. -/
def Kept (books : Books) : Prop :=
  ∀ clientId event, Awaited books.trace clientId event →
    ∃ entry, pendingOf books clientId event.eventId = some entry ∧ entry.event = event

theorem move_kept (maxSendCount : UInt32) (before after : Books)
    (move : Move maxSendCount before after) (filed : Filed before)
    (met : EveryEvent FirstSendTaken after.trace) (kept : Kept before) : Kept after := by
  intro other otherEvent awaited
  cases move_event_move maxSendCount move with
  | quiet added trace silent pending =>
      rw [trace, awaited_quiet _ silent] at awaited
      rw [pending]
      exact kept other otherEvent awaited
  | sent clientId event isResend accepted nowMs trace pending first again =>
      -- An event that is awaited under the id of the one sent is that event.
      have same : ∀ entry, pendingOf before clientId event.eventId = some entry →
          entry.event = event := by
        intro entry pends
        cases isResend with
        | false =>
            rw [trace, every_event_concat] at met
            exact (met.2 clientId event accepted rfl).2 entry.event
              (filed.awaited clientId _ entry pends) (filed.own clientId _ entry pends)
        | true =>
            obtain ⟨old, isOld, sameOld, _⟩ := again rfl
            rw [isOld] at pends
            cases pends
            exact sameOld
      have tracked : (trackedEntry event nowMs
          ((pendingOf before clientId event.eventId).getD {})).event = event := by
        rcases tracked_event event nowMs (pendingOf before clientId event.eventId) with
          new | ⟨entry, isOld, keeps⟩
        · exact new
        · exact keeps.trans (same entry isOld)
      rw [trace, awaited_sent] at awaited
      rw [pending]
      split
      · next updated =>
          obtain ⟨_, rfl, sameId⟩ := updated
          refine ⟨_, rfl, tracked.trans ?_⟩
          rcases awaited with ⟨_, _, isEvent⟩ | before
          · exact isEvent.symm
          · obtain ⟨entry, pends, isOther⟩ := kept other otherEvent before
            rw [sameId] at pends
            exact (same entry pends).symm.trans isOther
      · next untouched =>
          rcases awaited with ⟨taken, isClient, isEvent⟩ | before
          · exact absurd ⟨taken, isClient, congrArg NetworkEventDTO.eventId isEvent⟩ untouched
          · exact kept other otherEvent before
  | acked clientId eventId gone trace pending pends =>
      rw [trace, awaited_acked] at awaited
      rw [pending, if_neg awaited.2]
      exact kept other otherEvent awaited.1

theorem filed_start : Filed {} := by
  refine ⟨?_, ?_, ?_⟩ <;> intro clientId eventId entry pends <;> cases pends

theorem kept_start : Kept {} :=
  fun _ _ awaited => absurd awaited not_since_nil

/-- In every run whose first sends are taken the awaited events are pending. -/
theorem run_kept (transport : Transport) (config : ServerNetworkHostConfig)
    (calls : List HostCall)
    (met : EveryEvent FirstSendTaken (hostRun transport config calls).trace) :
    Kept (booksOf (hostRun transport config calls)) := by
  have moves := (host_run_progress transport config calls).moves
  rw [new_books] at moves
  have invariant := moves_invariant
    (fun books => Filed books ∧ (EveryEvent FirstSendTaken books.trace → Kept books))
    (fun before after move holds => ⟨move_filed _ before after move holds.1, fun met => by
      obtain ⟨added, trace⟩ := move_trace move
      have metBefore : EveryEvent FirstSendTaken before.trace := by
        rw [trace] at met
        exact every_event_prefix met
      exact move_kept _ before after move holds.1 met (holds.2 metBefore)⟩)
    moves ⟨filed_start, fun _ => kept_start⟩
  exact invariant.2 met

/-- An owed event was taken when it was first sent, or it was awaited before. -/
theorem owed_awaited {trace : Trace} (met : EveryEvent FirstSendTaken trace)
    {clientId : ClientId} {event : NetworkEventDTO} (owed : Owed trace clientId event) :
    Awaited trace clientId event := by
  obtain ⟨earlier, happening, later, rfl, ⟨accepted, rfl⟩, unacked⟩ := owed
  rcases (met earlier _ later rfl clientId event accepted rfl).1 with rfl | awaited
  · exact ⟨earlier, _, later, rfl, ⟨false, rfl⟩, unacked⟩
  · obtain ⟨first, sent, rest, rfl, taken, unackedRest⟩ := awaited
    refine ⟨first, sent, rest ++ .handed clientId (.event event false) accepted :: later, by simp,
      taken, ?_⟩
    intro other member
    rcases List.mem_append.mp member with before | member
    · exact unackedRest other before
    · rcases List.mem_cons.mp member with rfl | after
      · simp [Acks]
      · exact unacked other after

theorem events_kept (transport : Transport) (config : ServerNetworkHostConfig)
    (calls : List HostCall)
    (met : EveryEvent FirstSendTaken (hostRun transport config calls).trace) :
    EventsKept (hostRun transport config calls) := by
  intro clientId event owed
  rw [pending_iff]
  exact run_kept transport config calls met clientId event (owed_awaited met owed)

/-! While the event ids have not wrapped. -/

/-- A first send follows the numbering of its event. -/
def FirstSendAnnounced (earlier : Trace) (happening : Happening) : Prop :=
  ∀ clientId event accepted, happening = .handed clientId (.event event false) accepted →
    Announces earlier clientId event

structure Numbered (books : Books) : Prop where
  numbers : ∃ count, books.trace.filterMap numberedEventId = idsUpTo count ∧
    books.nextEventId = UInt32.ofNat (count + 1)
  announced : EveryEvent FirstSendAnnounced books.trace

theorem move_numbered (maxSendCount : UInt32) (before after : Books)
    (move : Move maxSendCount before after) (numbered : Numbered before) : Numbered after := by
  obtain ⟨⟨count, isCount, isNext⟩, announced⟩ := numbered
  have recorded (happening : Happening) (notNumber : numberedEventId happening = none)
      (announces : FirstSendAnnounced before.trace happening)
      (trace : after.trace = before.trace ++ [happening])
      (next : after.nextEventId = before.nextEventId) : Numbered after := by
    refine ⟨⟨count, ?_, next.trans isNext⟩, ?_⟩
    · rw [trace, List.filterMap_append, List.filterMap_cons, notNumber, isCount]
      exact List.append_nil _
    · rw [trace, every_event_concat]
      exact ⟨announced, announces⟩
  have noSend (happening : Happening) (other : ∀ clientId event accepted,
      happening ≠ .handed clientId (.event event false) accepted) :
      FirstSendAnnounced before.trace happening :=
    fun clientId event accepted same => absurd same (other clientId event accepted)
  cases move with
  | enrolled => exact ⟨⟨count, isCount, isNext⟩, announced⟩
  | baselineHeld => exact ⟨⟨count, isCount, isNext⟩, announced⟩
  | snapshotNumbered => exact recorded _ rfl (noSend _ (by simp)) rfl rfl
  | snapshotSent => exact recorded _ rfl (noSend _ (by simp)) rfl rfl
  | snapshotAcked => exact recorded _ rfl (noSend _ (by simp)) rfl rfl
  | timeSynced => exact recorded _ rfl (noSend _ (by simp)) rfl rfl
  | eventAcked => exact recorded _ rfl (noSend _ (by simp)) rfl rfl
  | eventResent => exact recorded _ rfl (noSend _ (by simp)) rfl rfl
  | eventSent clientId event nowMs accepted account has announces =>
      refine recorded _ rfl ?_ rfl rfl
      intro other otherEvent answer same
      cases same
      exact announces
  | eventNumbered =>
      refine ⟨⟨count + 1, ?_, ?_⟩, ?_⟩
      · have added : (before.trace ++ [Happening.eventNumbered before.nextEventId]).filterMap
            numberedEventId = idsUpTo count ++ [UInt32.ofNat (count + 1)] := by
          rw [List.filterMap_append, isCount, isNext]
          rfl
        refine added.trans ?_
        rw [idsUpTo, idsUpTo, List.range_succ, List.map_append]
        rfl
      · change before.nextEventId + 1 = _
        rw [isNext]
        exact (UInt32.ofNat_add (count + 1) 1).symm
      · exact (every_event_concat _ _ _).mpr ⟨announced, noSend _ (by simp)⟩

/-- An id is sent first to a client at most once. -/
theorem first_send_once {trace : Trace} {count : Nat}
    (numbers : trace.filterMap numberedEventId = idsUpTo count) (few : count < 2 ^ 32)
    (announced : EveryEvent FirstSendAnnounced trace) {earlier later : Trace}
    {clientId : ClientId} {event other : NetworkEventDTO} {accepted answer : Bool}
    (split : trace = earlier ++ .handed clientId (.event event false) accepted :: later)
    (sameId : other.eventId = event.eventId) :
    Happening.handed clientId (.event other false) answer ∉ later := by
  intro again
  obtain ⟨between, rest, rfl⟩ := List.append_of_mem again
  have regrouped : trace = (earlier ++ .handed clientId (.event event false) accepted :: between) ++
      .handed clientId (.event other false) answer :: rest := by rw [split]; simp
  obtain ⟨start, since, isEarlier, _⟩ := announced earlier _ _ split clientId event accepted rfl
  obtain ⟨otherStart, otherSince, isLater, others⟩ :=
    announced _ _ rest regrouped clientId other answer rfl
  have once : (trace.filterMap numberedEventId).Nodup := numbers ▸ ids_distinct few
  -- Both were announced when the id was numbered, so the first lies in between.
  have firstSplit : trace = start ++ .eventNumbered event.eventId ::
      (since ++ .handed clientId (.event event false) accepted :: between ++
        .handed clientId (.event other false) answer :: rest) := by
    rw [regrouped, isEarlier]
    simp
  have secondSplit : trace = otherStart ++ .eventNumbered other.eventId ::
      (otherSince ++ .handed clientId (.event other false) answer :: rest) := by
    rw [regrouped, isLater]
    simp
  rw [firstSplit] at once
  obtain ⟨_, sameLater⟩ := split_once numberedEventId once (firstSplit.symm.trans secondSplit) rfl
    (congrArg some sameId)
  have isSince := List.append_cancel_right sameLater
  have inBetween : Happening.handed clientId (.event event false) accepted ∈ otherSince := by
    rw [← isSince]
    simp
  obtain ⟨client, _, same, apart⟩ := others _ inBetween
  cases same
  exact apart rfl

theorem Numbered.few_ids {books : Books} (numbered : Numbered books)
    (few : eventsNumbered books.trace < 2 ^ 32) :
    ∃ count, books.trace.filterMap numberedEventId = idsUpTo count ∧ count < 2 ^ 32 := by
  obtain ⟨⟨count, numbers, _⟩, _⟩ := numbered
  unfold eventsNumbered at few
  rw [numbers] at few
  exact ⟨count, numbers, by simpa [idsUpTo] using few⟩

/-- The id of an event that is sent first was not sent first to the client before. -/
theorem first_send_new {before after : Books} (numbered : Numbered after)
    (few : eventsNumbered after.trace < 2 ^ 32) {clientId : ClientId} {event other : NetworkEventDTO}
    {accepted answer : Bool}
    (trace : after.trace = before.trace ++ [.handed clientId (.event event false) accepted])
    (sameId : other.eventId = event.eventId) :
    Happening.handed clientId (.event other false) answer ∉ before.trace := by
  intro member
  obtain ⟨count, numbers, small⟩ := numbered.few_ids few
  obtain ⟨start, rest, split⟩ := List.append_of_mem member
  have whole : after.trace = start ++ .handed clientId (.event other false) answer ::
      (rest ++ [.handed clientId (.event event false) accepted]) := by
    rw [trace, split, List.append_assoc, List.cons_append]
  exact first_send_once numbers small numbered.announced whole sameId.symm
    (List.mem_append_right _ List.mem_cons_self)

/-- An event is sent again only after it was sent first and taken. -/
def ResentAfterFirst (earlier : Trace) (happening : Happening) : Prop :=
  ∀ clientId event accepted, happening = .handed clientId (.event event true) accepted →
    Happening.handed clientId (.event event false) true ∈ earlier

theorem move_resent (maxSendCount : UInt32) (before after : Books)
    (move : Move maxSendCount before after) (filed : Filed before)
    (resent : EveryEvent ResentAfterFirst before.trace) :
    EveryEvent ResentAfterFirst after.trace := by
  have recorded (happening : Happening) (other : ∀ clientId event accepted,
      happening ≠ .handed clientId (.event event true) accepted) :
      EveryEvent ResentAfterFirst (before.trace ++ [happening]) :=
    (every_event_concat _ _ _).mpr ⟨resent,
      fun clientId event accepted same => absurd same (other clientId event accepted)⟩
  cases move with
  | enrolled => exact resent
  | baselineHeld => exact resent
  | snapshotNumbered => exact recorded _ (by simp)
  | snapshotSent => exact recorded _ (by simp)
  | snapshotAcked => exact recorded _ (by simp)
  | timeSynced => exact recorded _ (by simp)
  | eventNumbered => exact recorded _ (by simp)
  | eventAcked => exact recorded _ (by simp)
  | eventSent => exact recorded _ (by simp)
  | eventResent clientId event nowMs accepted account entry has pends same =>
      refine (every_event_concat _ _ _).mpr ⟨resent, ?_⟩
      intro other otherEvent answer isLast
      cases isLast
      rw [← same]
      exact filed.taken clientId event.eventId entry ((pending_of_account has _).trans pends)

/-- An awaited event was sent first before. -/
theorem awaited_first {trace : Trace} (resent : EveryEvent ResentAfterFirst trace)
    {clientId : ClientId} {event : NetworkEventDTO} (awaited : Awaited trace clientId event) :
    ∃ accepted, Happening.handed clientId (.event event false) accepted ∈ trace := by
  obtain ⟨earlier, happening, later, rfl, ⟨isResend, rfl⟩, _⟩ := awaited
  cases isResend with
  | false => exact ⟨true, by simp⟩
  | true =>
      have first := resent earlier _ later rfl clientId event true rfl
      exact ⟨true, List.mem_append_left _ first⟩

/-- An event whose first send was refused is owed and never pending. -/
def Lost (books : Books) : Prop :=
  ∀ clientId event, Happening.handed clientId (.event event false) false ∈ books.trace →
    pendingOf books clientId event.eventId = none ∧ Owed books.trace clientId event

theorem move_lost (maxSendCount : UInt32) (before after : Books)
    (move : Move maxSendCount before after) (filed : Filed before) (numbered : Numbered after)
    (few : eventsNumbered after.trace < 2 ^ 32) (lost : Lost before) : Lost after := by
  intro other otherEvent refused
  cases move_event_move maxSendCount move with
  | quiet added trace silent pending =>
      rw [trace] at refused
      rcases List.mem_append.mp refused with old | new
      · obtain ⟨absent, owed⟩ := lost other otherEvent old
        refine ⟨(pending other _).trans absent, ?_⟩
        rw [trace]
        refine (since_append _ _ fun happening member => ⟨?_, ?_⟩).mpr owed
        · rintro ⟨accepted, same⟩
          exact (silent happening member).1 other otherEvent false accepted same
        · exact (silent happening member).2 other otherEvent.eventId
      · exact absurd rfl ((silent _ new).1 other otherEvent false false)
  | sent clientId event isResend accepted nowMs trace pending first again =>
      rw [trace] at refused
      rw [trace]
      rcases List.mem_append.mp refused with old | new
      · obtain ⟨absent, owed⟩ := lost other otherEvent old
        refine ⟨?_, (since_concat _ _).mpr (Or.inr ⟨owed, by simp [Acks]⟩)⟩
        rw [pending]
        split
        · next updated =>
            obtain ⟨_, rfl, sameId⟩ := updated
            cases isResend with
            | false => exact absurd old (first_send_new numbered few trace sameId)
            | true =>
                obtain ⟨entry, pends, _⟩ := again rfl
                rw [← sameId, absent] at pends
                cases pends
        · exact absent
      · cases List.mem_singleton.mp new
        refine ⟨?_, (since_concat _ _).mpr (Or.inl ⟨false, rfl⟩)⟩
        rw [pending, if_neg (by simp)]
        -- A new event is filed under a new id, so no entry stands there.
        cases pends : pendingOf before other otherEvent.eventId with
        | none => rfl
        | some entry =>
            exact absurd (filed.taken other _ entry pends)
              (first_send_new numbered few trace (filed.own other _ entry pends))
  | acked clientId eventId entry trace pending pends =>
      rw [trace] at refused ⊢
      have old : Happening.handed other (.event otherEvent false) false ∈ before.trace := by
        simpa using refused
      obtain ⟨absent, owed⟩ := lost other otherEvent old
      refine ⟨?_, (since_concat _ _).mpr (Or.inr ⟨owed, ?_⟩)⟩
      · rw [pending, absent, ite_self]
      · intro same
        cases same
        rw [absent] at pends
        cases pends

/-- What holds of every run before the event ids wrap. -/
structure Unwrapped (books : Books) : Prop where
  filed : Filed books
  numbered : Numbered books
  resent : EveryEvent ResentAfterFirst books.trace
  lost : eventsNumbered books.trace < 2 ^ 32 → Lost books

theorem few_before {maxSendCount : UInt32} {before after : Books}
    (move : Move maxSendCount before after) (few : eventsNumbered after.trace < 2 ^ 32) :
    eventsNumbered before.trace < 2 ^ 32 := by
  obtain ⟨added, trace⟩ := move_trace move
  unfold eventsNumbered at few ⊢
  rw [trace, List.filterMap_append, List.length_append] at few
  omega

theorem unwrapped_start : Unwrapped {} where
  filed := filed_start
  numbered := ⟨⟨0, rfl, rfl⟩, every_event_nil _⟩
  resent := every_event_nil _
  lost := by
    intro few clientId event member
    cases member

theorem move_unwrapped (maxSendCount : UInt32) (before after : Books)
    (move : Move maxSendCount before after) (holds : Unwrapped before) : Unwrapped after := by
  have numbered := move_numbered _ before after move holds.numbered
  refine ⟨move_filed _ before after move holds.filed, numbered,
    move_resent _ before after move holds.filed holds.resent, fun few => ?_⟩
  exact move_lost _ before after move holds.filed numbered few (holds.lost (few_before move few))

theorem run_unwrapped (transport : Transport) (config : ServerNetworkHostConfig)
    (calls : List HostCall) : Unwrapped (booksOf (hostRun transport config calls)) := by
  have moves := (host_run_progress transport config calls).moves
  rw [new_books] at moves
  exact moves_invariant Unwrapped (move_unwrapped _) moves unwrapped_start

/-- Before the ids wrap an event is kept if and only if no first send is refused. -/
theorem events_kept_iff (transport : Transport) (config : ServerNetworkHostConfig)
    (calls : List HostCall)
    (few : eventsNumbered (hostRun transport config calls).trace < 2 ^ 32) :
    EventsKept (hostRun transport config calls) ↔
      ∀ clientId event, Happening.handed clientId (.event event false) false ∉
        (hostRun transport config calls).trace := by
  have unwrapped := run_unwrapped transport config calls
  constructor
  · intro kept clientId event refused
    obtain ⟨absent, owed⟩ := unwrapped.lost few clientId event refused
    obtain ⟨entry, pends, _⟩ := (pending_iff _ clientId event).mp (kept clientId event owed)
    rw [absent] at pends
    cases pends
  · intro taken
    apply events_kept
    obtain ⟨count, numbers, small⟩ := unwrapped.numbered.few_ids few
    have announced := unwrapped.numbered.announced
    have resent := unwrapped.resent
    have isTrace : (booksOf (hostRun transport config calls)).trace =
      (hostRun transport config calls).trace := rfl
    rw [isTrace] at numbers announced resent
    generalize (hostRun transport config calls).trace = trace at *
    rintro earlier _ later rfl clientId event accepted rfl
    constructor
    · cases accepted with
      | true => exact Or.inl rfl
      | false => exact absurd (by simp) (taken clientId event)
    · intro other awaited sameId
      have resentBefore := every_event_prefix resent
      obtain ⟨answer, first⟩ := awaited_first resentBefore awaited
      obtain ⟨start, rest, rfl⟩ := List.append_of_mem first
      have split : start ++ .handed clientId (.event other false) answer :: rest ++
          .handed clientId (.event event false) accepted :: later =
          start ++ .handed clientId (.event other false) answer ::
            (rest ++ .handed clientId (.event event false) accepted :: later) := by simp
      exact absurd (List.mem_append_right _ List.mem_cons_self)
        (first_send_once numbers small announced split sameId.symm)

/-! Creating an event. -/

section Creating

variable (transport : Transport)

theorem send_event_hands (host : ServerNetworkHost) (clientId : ClientId)
    (event : NetworkEventDTO) (nowMs : TimestampMs) (isResend : Bool) :
    ∃ accepted, (host.sendReliableEvent transport clientId event nowMs isResend).trace =
      host.trace ++ [.handed clientId (.event event isResend) accepted] := by
  refine ⟨transport host.trace (envelopeFor clientId (.event event isResend)), ?_⟩
  unfold sendReliableEvent send
  dsimp only
  split
  · rfl
  · rfl

/-- The loop over the clients hands the event to each one it is addressed to. -/
theorem send_to_clients_hands (event : NetworkEventDTO) (nowMs : TimestampMs)
    (clients : List ClientId) (host : ServerNetworkHost) :
    (∃ added, (clients.foldl (sendToClient transport event nowMs) host).trace =
      host.trace ++ added) ∧
    ∀ clientId ∈ clients, (∀ observer, observerOnly event = some observer → observer = clientId) →
      ∃ accepted, Happening.handed clientId (.event event false) accepted ∈
        (clients.foldl (sendToClient transport event nowMs) host).trace := by
  induction clients generalizing host with
  | nil => exact ⟨⟨[], (List.append_nil _).symm⟩, by simp⟩
  | cons head rest ih =>
      obtain ⟨⟨added, grown⟩, later⟩ := ih (sendToClient transport event nowMs host head)
      obtain ⟨accepted, handed⟩ := send_event_hands transport host head event nowMs false
      rw [List.foldl_cons]
      constructor
      · rw [grown]
        unfold sendToClient
        split
        · exact ⟨added, rfl⟩
        · exact ⟨_, by rw [handed, List.append_assoc]⟩
      · intro clientId member addressed
        rcases List.mem_cons.mp member with rfl | inRest
        · have turn : sendToClient transport event nowMs host clientId =
              host.sendReliableEvent transport clientId event nowMs false := by
            unfold sendToClient
            rw [if_neg]
            intro other
            obtain ⟨observer, isObserver, differs⟩ := (Option.any_eq_true _ _).mp other
            exact (decide_eq_true_eq.mp differs) (addressed observer isObserver)
          refine ⟨accepted, ?_⟩
          rw [grown, turn, handed]
          simp
        · exact later clientId inRest addressed

end Creating

/-- Creating an event hands it at once to every client it is addressed to: a
broadcast one to all clients or its observer, an interest one to its observer. -/
theorem created_handed (transport : Transport) (host numbered : ServerNetworkHost)
    (nowMs : TimestampMs) (event : DomainEvent) (networkEvent : NetworkEventDTO)
    (created : host.numberedEvent event = (numbered, some networkEvent)) (clientId : ClientId) :
    (clientId ∈ host.clients →
      (∀ observer, observerOnly networkEvent = some observer → observer = clientId) →
      ∃ accepted, Happening.handed clientId (.event networkEvent false) accepted ∈
        (host.broadcastEvent transport nowMs event).trace) ∧
    ∃ accepted, Happening.handed clientId (.event networkEvent false) accepted ∈
      (host.sendInterestEvent transport clientId nowMs event).trace := by
  have clients : numbered.clients = host.clients := by
    rw [numbered_event_host created]
    rfl
  constructor
  · intro member addressed
    unfold broadcastEvent
    rw [created]
    exact (send_to_clients_hands transport networkEvent nowMs numbered.clients numbered).2 clientId
      (clients ▸ member) addressed
  · unfold sendInterestEvent
    rw [created]
    obtain ⟨accepted, handed⟩ :=
      send_event_hands transport numbered clientId networkEvent nowMs false
    exact ⟨accepted, by dsimp only; rw [handed]; simp⟩

/-- Reliable events are kept until they are acknowledged in every run whose first
sends are taken; before the event ids wrap, in no other run. -/
theorem reliable_events_kept (transport : Transport) (config : ServerNetworkHostConfig)
    (calls : List HostCall) :
    (EveryEvent FirstSendTaken (hostRun transport config calls).trace →
      EventsKept (hostRun transport config calls)) ∧
    (eventsNumbered (hostRun transport config calls).trace < 2 ^ 32 →
      (EventsKept (hostRun transport config calls) ↔
        ∀ clientId event, Happening.handed clientId (.event event false) false ∉
          (hostRun transport config calls).trace)) ∧
    ∀ (host numbered : ServerNetworkHost) nowMs event networkEvent clientId,
      host.numberedEvent event = (numbered, some networkEvent) →
      (clientId ∈ host.clients →
        (∀ observer, observerOnly networkEvent = some observer → observer = clientId) →
        ∃ accepted, Happening.handed clientId (.event networkEvent false) accepted ∈
          (host.broadcastEvent transport nowMs event).trace) ∧
      ∃ accepted, Happening.handed clientId (.event networkEvent false) accepted ∈
        (host.sendInterestEvent transport clientId nowMs event).trace :=
  ⟨events_kept transport config calls, events_kept_iff transport config calls,
   fun host numbered nowMs event networkEvent clientId created =>
    created_handed transport host numbered nowMs event networkEvent created clientId⟩

/-- Client 1 joins, and its player and its spawn are told in the first tick. -/
def spawnCalls : List HostCall := [joinCall 1, .tickAndSendSnapshots .stored .stored 16]

def spawnEvent : NetworkEventDTO :=
  { eventId := 2, serverTick := 1, serverTimeMs := 16
    payload := .playerSpawned { entityId := { value := 1 }, clientId := 1, x := 1408000,
                                y := 1280000 } }

def isRefused : Happening → Bool
  | .handed _ (.event _ false) accepted => !accepted
  | _ => false

theorem reliable_events_kept_spawned :
    Owed (hostRun (fun _ _ => true) {} spawnCalls).trace 1 spawnEvent ∧
      EventsKept (hostRun (fun _ _ => true) {} spawnCalls) := by
  have told : (hostRun (fun _ _ => true) {} spawnCalls).trace =
      (hostRun (fun _ _ => true) {} spawnCalls).trace.take 5 ++
        [.handed 1 (.event spawnEvent false) true] := by decide +kernel
  have few : eventsNumbered (hostRun (fun _ _ => true) {} spawnCalls).trace = 2 := by
    decide +kernel
  have noneRefused : (hostRun (fun _ _ => true) {} spawnCalls).trace.any isRefused = false := by
    decide +kernel
  refine ⟨⟨_, _, [], told, ⟨true, rfl⟩, by simp⟩,
    ((reliable_events_kept _ {} spawnCalls).2.1 (by rw [few]; decide)).mpr ?_⟩
  intro clientId event refused
  have isRefusal := List.any_eq_false.mp noneRefused _ refused
  exact isRefusal rfl

/-- A transport that refuses its third `Send` and takes all others. -/
def refusesThird : Transport := fun trace _ => trace.length ≠ 5

/-- The spawn that the transport refuses is never pending. -/
theorem refused_event_lost :
    ¬ ∀ transport config calls, EventsKept (hostRun transport config calls) := by
  intro kept
  have few : eventsNumbered (hostRun refusesThird {} spawnCalls).trace = 2 := by decide +kernel
  have refused : Happening.handed 1 (.event spawnEvent false) false ∈
      (hostRun refusesThird {} spawnCalls).trace := by decide +kernel
  exact (events_kept_iff refusesThird {} spawnCalls (by rw [few]; decide)).mp
    (kept refusesThird {} spawnCalls) 1 spawnEvent refused

end Brawololo.ReliableEvents
