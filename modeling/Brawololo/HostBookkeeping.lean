import Brawololo.DeliveryBooks

/-!
Every call on the network host makes moves in its books. The loops of the host
are followed once here; what holds along all moves then holds of every run.
-/

namespace Brawololo.HostBookkeeping

open GameTypes EntityStore NetworkEvents NetworkProtocol Serialization Simulation Replication
open Server ServerClientReplicationState ServerNetworkHost DeliveryBooks

def accountOf (state : ServerClientReplicationState) : Account where
  acked := state.ackedSnapshot
  pending := fun eventId => state.pendingReliableEvents[eventId]?

def booksOf (host : ServerNetworkHost) : Books where
  trace := host.trace
  nextSnapshotId := host.runtime.nextSnapshotId
  nextEventId := host.nextNetworkEventId
  held := host.baselineCache.baselines
  accounts := fun clientId => (host.clientStateById[clientId]?).map accountOf

def cap (host : ServerNetworkHost) : UInt32 := host.config.reliableEventMaxSendCount

/-- The clients are the ones with an account, each listed once, and a pending
event is filed under its own id. -/
structure Tidy (host : ServerNetworkHost) : Prop where
  distinct : host.clients.Nodup
  enrolled : ∀ clientId, clientId ∈ host.clients ↔ ((booksOf host).accounts clientId).isSome
  keyed : ∀ clientId account eventId entry, (booksOf host).accounts clientId = some account →
    account.pending eventId = some entry → entry.event.eventId = eventId

/-- Pending events are filed under their own ids. -/
def Keyed (books : Books) : Prop :=
  ∀ clientId account eventId entry, books.accounts clientId = some account →
    account.pending eventId = some entry → entry.event.eventId = eventId

/-- What a call does that enrolls nobody. -/
structure Advances (before after : ServerNetworkHost) : Prop where
  clients : after.clients = before.clients
  config : after.config = before.config
  accounts : ∀ clientId, ((booksOf after).accounts clientId).isSome =
    ((booksOf before).accounts clientId).isSome
  moves : Moves (cap before) (booksOf before) (booksOf after)

namespace Advances

theorem refl (host : ServerNetworkHost) : Advances host host :=
  ⟨rfl, rfl, fun _ => rfl, Moves.refl _⟩

theorem trans {first second third : ServerNetworkHost} (left : Advances first second)
    (right : Advances second third) : Advances first third := by
  refine ⟨right.clients.trans left.clients, right.config.trans left.config,
    fun clientId => (right.accounts clientId).trans (left.accounts clientId), ?_⟩
  have sameCap : cap second = cap first := by
    unfold cap
    rw [left.config]
  have rest := right.moves
  rw [sameCap] at rest
  exact left.moves.trans rest

theorem of_same {before after : ServerNetworkHost} (clients : after.clients = before.clients)
    (config : after.config = before.config) (books : booksOf after = booksOf before) :
    Advances before after := by
  refine ⟨clients, config, ?_, ?_⟩
  · intro clientId
    rw [books]
  · rw [books]
    exact Moves.refl _

end Advances

/-- A send leaves the pending events of an account under their own ids. -/
theorem answered_keyed (account : Account) (event : NetworkEventDTO) (nowMs : TimestampMs)
    (accepted : Bool) (own : ∀ eventId entry, account.pending eventId = some entry →
      entry.event.eventId = eventId) (eventId : NetworkEventId) (entry : PendingReliableEvent)
    (pends : (account.answered event nowMs accepted).pending eventId = some entry) :
    entry.event.eventId = eventId := by
  unfold Account.answered at pends
  split at pends
  · unfold Account.track at pends
    dsimp only at pends
    rw [Function.update_apply] at pends
    split at pends
    · next same =>
        cases pends
        subst same
        unfold trackedEntry
        cases old : account.pending event.eventId with
        | none => rfl
        | some entry =>
            dsimp only [Option.getD_some]
            split
            · rfl
            · exact own _ entry old
    · exact own eventId entry pends
  · exact own eventId entry pends

theorem set_account_keyed {books : Books} (keyed : Keyed books) (clientId : ClientId)
    (account : Account) (own : ∀ eventId entry, account.pending eventId = some entry →
      entry.event.eventId = eventId) : Keyed (books.setAccount clientId account) := by
  intro other found eventId entry has pends
  rw [Books.set_account_get] at has
  split at has
  · cases has
    exact own eventId entry pends
  · exact keyed other found eventId entry has pends

theorem move_keyed (maxSendCount : UInt32) (before after : Books)
    (move : Move maxSendCount before after) (keyed : Keyed before) : Keyed after := by
  have replaced := set_account_keyed keyed
  cases move with
  | enrolled clientId new =>
      apply replaced
      intro eventId entry pends
      cases pends
  | snapshotNumbered => exact keyed
  | snapshotSent => exact keyed
  | baselineHeld => exact keyed
  | snapshotAcked clientId snapshotId account has =>
      exact replaced clientId _ fun eventId entry => keyed clientId account eventId entry has
  | eventNumbered => exact keyed
  | eventSent clientId event nowMs accepted account has =>
      exact replaced clientId _ (answered_keyed account event nowMs accepted fun eventId entry =>
        keyed clientId account eventId entry has)
  | eventResent clientId event nowMs accepted account entry has =>
      exact replaced clientId _ (answered_keyed account event nowMs accepted fun eventId entry =>
        keyed clientId account eventId entry has)
  | timeSynced => exact keyed
  | eventAcked clientId eventId account entry has =>
      apply replaced
      intro other found pends
      dsimp only at pends
      rw [Function.update_apply] at pends
      split at pends
      · cases pends
      · exact keyed clientId account other found has pends

theorem Advances.tidy {before after : ServerNetworkHost} (advances : Advances before after)
    (tidy : Tidy before) : Tidy after := by
  refine ⟨by rw [advances.clients]; exact tidy.distinct, ?_, ?_⟩
  · intro clientId
    rw [advances.clients, tidy.enrolled, advances.accounts]
  · exact moves_invariant Keyed (move_keyed _) advances.moves tidy.keyed

/-! Primitive steps. -/

theorem account_of_track (state : ServerClientReplicationState) (event : NetworkEventDTO)
    (nowMs : TimestampMs) :
    accountOf (state.trackReliableEvent event nowMs) = (accountOf state).track event nowMs := by
  unfold accountOf trackReliableEvent Account.track
  dsimp only
  congr 1
  funext eventId
  rw [get_insert, Function.update_apply]
  simp only [eq_comm]

theorem books_update_client (host : ServerNetworkHost) (clientId : ClientId)
    (change : ServerClientReplicationState → ServerClientReplicationState)
    {state : ServerClientReplicationState} (has : host.clientStateById[clientId]? = some state) :
    booksOf (host.updateClient clientId change) =
      (booksOf host).setAccount clientId (accountOf (change state)) := by
  unfold booksOf updateClient Books.setAccount
  dsimp only
  congr 1
  funext other
  rw [get_modify, Function.update_apply]
  by_cases same : clientId = other
  · subst same
    rw [if_pos rfl, if_pos rfl, has, Option.map_some, Option.map_some]
  · rw [if_neg same, if_neg (Ne.symm same)]

/-- A change of what the books do not keep. -/
theorem books_update_rest (host : ServerNetworkHost) (clientId : ClientId)
    (change : ServerClientReplicationState → ServerClientReplicationState)
    (same : ∀ state, accountOf (change state) = accountOf state) :
    booksOf (host.updateClient clientId change) = booksOf host := by
  unfold booksOf updateClient
  dsimp only
  congr 1
  funext other
  exact part_modify accountOf host.clientStateById clientId other change same

theorem number_event_advances (host : ServerNetworkHost) : Advances host host.numberEvent.1 :=
  ⟨rfl, rfl, fun _ => rfl, (Move.eventNumbered).moves⟩

theorem number_snapshot_advances (host : ServerNetworkHost) : Advances host host.numberSnapshot :=
  ⟨rfl, rfl, fun _ => rfl, (Move.snapshotNumbered).moves⟩

/-- Replacing an existing account enrolls nobody. -/
theorem set_account_some (books : Books) (clientId : ClientId) (account next : Account)
    (has : books.accounts clientId = some account) (other : ClientId) :
    ((books.setAccount clientId next).accounts other).isSome = (books.accounts other).isSome := by
  rw [Books.set_account_get]
  split
  · next same =>
      rw [same, has]
      rfl
  · rfl

section Sending

variable (transport : Transport)

/-- What `SendReliableEvent` leaves in the books. -/
theorem send_event_books (host : ServerNetworkHost) (clientId : ClientId)
    (event : NetworkEventDTO) (nowMs : TimestampMs) (isResend : Bool) {account : Account}
    (has : (booksOf host).accounts clientId = some account) :
    ∃ accepted, booksOf (host.sendReliableEvent transport clientId event nowMs isResend) =
      ((booksOf host).setAccount clientId (account.answered event nowMs accepted)).record
        (.handed clientId (.event event isResend) accepted) := by
  obtain ⟨state, isState, rfl⟩ := Option.map_eq_some_iff.mp has
  refine ⟨transport host.trace (envelopeFor clientId (.event event isResend)), ?_⟩
  unfold sendReliableEvent send Account.answered
  dsimp only
  split
  · have tracked := books_update_client
      (host.record (.handed clientId (.event event isResend) true)) clientId
      (fun state => state.trackReliableEvent event nowMs) isState
    rw [account_of_track] at tracked
    next accepted =>
      rw [accepted]
      exact tracked
  · have same : (booksOf host).setAccount clientId (accountOf state) = booksOf host := by
      unfold Books.setAccount
      rw [← has, Function.update_eq_self]
    next refused =>
      rw [same]
      rfl

theorem send_event_rest (host : ServerNetworkHost) (clientId : ClientId)
    (event : NetworkEventDTO) (nowMs : TimestampMs) (isResend : Bool) :
    (host.sendReliableEvent transport clientId event nowMs isResend).clients = host.clients ∧
    (host.sendReliableEvent transport clientId event nowMs isResend).config = host.config := by
  unfold sendReliableEvent
  dsimp only
  split
  · exact ⟨rfl, rfl⟩
  · exact ⟨rfl, rfl⟩

/-- A first send of an announced event. -/
theorem send_event_advances (host : ServerNetworkHost) (tidy : Tidy host) (clientId : ClientId)
    (member : clientId ∈ host.clients) (event : NetworkEventDTO) (nowMs : TimestampMs)
    (announces : Announces host.trace clientId event) :
    Advances host (host.sendReliableEvent transport clientId event nowMs false) ∧
    ∃ accepted, (host.sendReliableEvent transport clientId event nowMs false).trace =
      host.trace ++ [.handed clientId (.event event false) accepted] := by
  obtain ⟨account, has⟩ := Option.isSome_iff_exists.mp ((tidy.enrolled clientId).mp member)
  obtain ⟨accepted, books⟩ := send_event_books transport host clientId event nowMs false has
  obtain ⟨clients, config⟩ := send_event_rest transport host clientId event nowMs false
  constructor
  · refine ⟨clients, config, ?_, ?_⟩
    · intro other
      rw [books]
      exact set_account_some _ clientId account _ has other
    · rw [books]
      exact (Move.eventSent clientId event nowMs accepted account has announces).moves
  · exact ⟨accepted, congrArg Books.trace books⟩

/-- A resend of an event that is pending below its cap. -/
theorem resend_event_advances (host : ServerNetworkHost) (clientId : ClientId)
    (event : NetworkEventDTO) (nowMs : TimestampMs) {account : Account}
    {entry : PendingReliableEvent} (has : (booksOf host).accounts clientId = some account)
    (pends : account.pending event.eventId = some entry) (same : entry.event = event)
    (below : belowCap (cap host) entry = true) :
    Advances host (host.sendReliableEvent transport clientId event nowMs true) := by
  obtain ⟨accepted, books⟩ := send_event_books transport host clientId event nowMs true has
  obtain ⟨clients, config⟩ := send_event_rest transport host clientId event nowMs true
  refine ⟨clients, config, ?_, ?_⟩
  · intro other
    rw [books]
    exact set_account_some _ clientId account _ has other
  · rw [books]
    exact (Move.eventResent clientId event nowMs accepted account entry has pends same below).moves

/-! The loops. -/

/-- The loop over the clients sends one announced event to each of them. -/
theorem send_to_clients_advances (event : NetworkEventDTO) (nowMs : TimestampMs)
    (rest : List ClientId) (distinct : rest.Nodup) (host : ServerNetworkHost) (tidy : Tidy host)
    (listed : ∀ clientId ∈ rest, clientId ∈ host.clients) (earlier since : Trace)
    (trace : host.trace = earlier ++ .eventNumbered event.eventId :: since)
    (others : ∀ happening ∈ since, ∃ other accepted,
      happening = .handed other (.event event false) accepted ∧ other ∉ rest) :
    Advances host (rest.foldl (sendToClient transport event nowMs) host) := by
  induction rest generalizing host since with
  | nil => exact Advances.refl host
  | cons clientId rest ih =>
      obtain ⟨notAgain, distinctRest⟩ := List.nodup_cons.mp distinct
      have others' : ∀ happening ∈ since, ∃ other accepted,
          happening = .handed other (.event event false) accepted ∧ other ∉ rest := by
        intro happening member
        obtain ⟨other, accepted, is, absent⟩ := others happening member
        exact ⟨other, accepted, is, fun later => absent (List.mem_cons_of_mem clientId later)⟩
      rw [List.foldl_cons]
      unfold sendToClient
      split
      · exact ih distinctRest host tidy
          (fun other member => listed other (List.mem_cons_of_mem clientId member)) since trace
          others'
      · have announces : Announces host.trace clientId event := by
          refine ⟨earlier, since, trace, ?_⟩
          intro happening member
          obtain ⟨other, accepted, is, absent⟩ := others happening member
          refine ⟨other, accepted, is, ?_⟩
          rintro rfl
          exact absent List.mem_cons_self
        obtain ⟨advances, accepted, extended⟩ := send_event_advances transport host tidy clientId
          (listed clientId List.mem_cons_self) event nowMs announces
        refine advances.trans (ih distinctRest _ (advances.tidy tidy) ?_
          (since ++ [.handed clientId (.event event false) accepted]) ?_ ?_)
        · intro other member
          rw [advances.clients]
          exact listed other (List.mem_cons_of_mem clientId member)
        · rw [extended, trace, List.append_assoc, List.cons_append]
        · intro happening member
          rcases List.mem_append.mp member with old | new
          · exact others' happening old
          · exact ⟨clientId, accepted, List.mem_singleton.mp new, notAgain⟩

/-- Numbering an event takes the next id, whatever the event translates to. -/
theorem numbered_event_host {host numbered : ServerNetworkHost} {event : DomainEvent}
    {networkEvent : Option NetworkEventDTO}
    (result : host.numberedEvent event = (numbered, networkEvent)) :
    numbered = host.numberEvent.1 := by
  unfold numberedEvent at result
  exact (Prod.mk.inj result).1.symm

/-- What `numberedEvent` returns carries the id it took. -/
theorem numbered_event_announces (host : ServerNetworkHost) (event : DomainEvent)
    (networkEvent : NetworkEventDTO) (numbered : ServerNetworkHost)
    (result : host.numberedEvent event = (numbered, some networkEvent)) :
    numbered = host.numberEvent.1 ∧
      numbered.trace = host.trace ++ .eventNumbered networkEvent.eventId :: [] := by
  unfold numberedEvent at result
  obtain ⟨rfl, converted⟩ := Prod.mk.inj result
  obtain ⟨_, sameId, _⟩ := to_domain_event_of_network _ _ _ event networkEvent converted
  refine ⟨rfl, ?_⟩
  rw [sameId]
  rfl

theorem broadcast_event_advances (nowMs : TimestampMs) (host : ServerNetworkHost)
    (tidy : Tidy host) (event : DomainEvent) :
    Advances host (host.broadcastEvent transport nowMs event) := by
  unfold broadcastEvent
  split
  · next numbered result =>
      obtain rfl := numbered_event_host result
      exact number_event_advances host
  · next numbered networkEvent result =>
      obtain ⟨rfl, trace⟩ := numbered_event_announces host event networkEvent numbered result
      have advances := number_event_advances host
      refine advances.trans (send_to_clients_advances transport networkEvent nowMs _ ?_ _
        (advances.tidy tidy) (fun _ member => member) host.trace [] trace ?_)
      · exact tidy.distinct
      · intro happening member
        cases member

theorem send_interest_advances (clientId : ClientId) (nowMs : TimestampMs)
    (host : ServerNetworkHost) (tidy : Tidy host) (member : clientId ∈ host.clients)
    (event : DomainEvent) :
    Advances host (host.sendInterestEvent transport clientId nowMs event) := by
  unfold sendInterestEvent
  split
  · next numbered result =>
      obtain rfl := numbered_event_host result
      exact number_event_advances host
  · next numbered networkEvent result =>
      obtain ⟨rfl, trace⟩ := numbered_event_announces host event networkEvent numbered result
      have advances := number_event_advances host
      refine advances.trans (send_event_advances transport _ (advances.tidy tidy) clientId member
        networkEvent nowMs ⟨host.trace, [], trace, ?_⟩).1
      intro happening isIn
      cases isIn

/-- A loop whose turns advance a tidy host advances it. -/
theorem loop_advances {Item : Type} (turn : ServerNetworkHost → Item → ServerNetworkHost)
    (items : List Item) (host : ServerNetworkHost) (tidy : Tidy host)
    (advance : ∀ item ∈ items, ∀ between, Tidy between → between.clients = host.clients →
      Advances between (turn between item)) :
    Advances host (items.foldl turn host) := by
  have all : Tidy (items.foldl turn host) ∧ Advances host (items.foldl turn host) := by
    apply Runs.run_invariant_of_mem turn fun between => Tidy between ∧ Advances host between
    · rintro item member between ⟨tidyBetween, advances⟩
      have next := advance item member between tidyBetween advances.clients
      exact ⟨next.tidy tidyBetween, advances.trans next⟩
    · exact ⟨tidy, Advances.refl host⟩
  exact all.2

theorem broadcast_advances (host : ServerNetworkHost) (tidy : Tidy host) (events : EventList)
    (nowMs : TimestampMs) : Advances host (host.broadcastReliableEvents transport events nowMs) :=
  loop_advances _ events host tidy fun event _ between tidyBetween _ =>
    broadcast_event_advances transport nowMs between tidyBetween event

theorem interest_advances (host : ServerNetworkHost) (tidy : Tidy host) (clientId : ClientId)
    (member : clientId ∈ host.clients) (frame : InterestFrame) (nowMs : TimestampMs) :
    Advances host (host.sendInterestEvents transport clientId frame nowMs) :=
  loop_advances _ _ host tidy fun event _ between tidyBetween sameClients =>
    send_interest_advances transport clientId nowMs between tidyBetween
      (by rw [sameClients]; exact member) event

/-- Events that are due are pending under their ids. -/
theorem due_pending {Site : Type} (state : ServerClientReplicationState)
    (order : EntityStore.IterationOrder Site) (site : Site) (nowMs baseIntervalMs : TimestampMs)
    (maxSendCount : UInt32)
    (keyed : ∀ (eventId : NetworkEventId) (entry : PendingReliableEvent),
      state.pendingReliableEvents[eventId]? = some entry → entry.event.eventId = eventId) :
    ((state.reliableEventsDueForResend order site nowMs baseIntervalMs maxSendCount).map
      fun event => event.eventId).Nodup ∧
    ∀ event ∈ state.reliableEventsDueForResend order site nowMs baseIntervalMs maxSendCount,
      ∃ entry : PendingReliableEvent, state.pendingReliableEvents[event.eventId]? = some entry ∧
        entry.event = event ∧ dueForResend nowMs baseIntervalMs maxSendCount entry = true := by
  unfold reliableEventsDueForResend
  have entries : ∀ entry ∈ (order.arrange site state.pendingReliableEvents.toList).filter
      (fun entry => dueForResend nowMs baseIntervalMs maxSendCount entry.2),
      state.pendingReliableEvents[entry.1]? = some entry.2 ∧ entry.2.event.eventId = entry.1 ∧
        dueForResend nowMs baseIntervalMs maxSendCount entry.2 = true := by
    intro entry member
    obtain ⟨isEntry, due⟩ := List.mem_filter.mp member
    rw [IterationOrder.mem_arrange, Std.ExtTreeMap.mem_toList_iff_getElem?_eq_some] at isEntry
    exact ⟨isEntry, keyed entry.1 entry.2 isEntry, due⟩
  constructor
  · rw [List.map_map]
    have keys : ((order.arrange site state.pendingReliableEvents.toList).map
        fun entry => entry.1).Nodup := by
      apply ((order.arrange_perm site state.pendingReliableEvents.toList).map
        fun entry => entry.1).nodup_iff.mpr
      rw [Std.ExtTreeMap.map_fst_toList_eq_keys]
      exact Std.ExtTreeMap.nodup_keys
    have same : ∀ entry ∈ (order.arrange site state.pendingReliableEvents.toList).filter
        (fun entry => dueForResend nowMs baseIntervalMs maxSendCount entry.2),
        ((fun event : NetworkEventDTO => event.eventId) ∘ fun entry => entry.2.event) entry =
          entry.1 := fun entry member => (entries entry member).2.1
    rw [List.map_congr_left same]
    exact keys.sublist (List.Sublist.map _ List.filter_sublist)
  · intro event member
    obtain ⟨entry, isDue, rfl⟩ := List.mem_map.mp member
    obtain ⟨present, sameId, due⟩ := entries entry isDue
    exact ⟨entry.2, by rw [sameId]; exact present, rfl, due⟩

/-- The loop over the due events of one client: what each resend relates, the
loop relates. -/
theorem resend_events_relate (related : ServerNetworkHost → ServerNetworkHost → Prop)
    (same : ∀ host, related host host)
    (chained : ∀ {first second third}, related first second → related second third →
      related first third)
    (clientId : ClientId) (nowMs : TimestampMs) (allowed : PendingReliableEvent → Prop)
    (config : ServerNetworkHostConfig)
    (resend : ∀ (host : ServerNetworkHost) (account : Account) (entry : PendingReliableEvent),
      host.config = config → (booksOf host).accounts clientId = some account →
      account.pending entry.event.eventId = some entry → allowed entry →
      related host (host.sendReliableEvent transport clientId entry.event nowMs true))
    (events : List NetworkEventDTO)
    (distinct : (events.map fun event => event.eventId).Nodup) (host : ServerNetworkHost)
    (sameConfig : host.config = config) (account : Account)
    (has : (booksOf host).accounts clientId = some account)
    (due : ∀ event ∈ events, ∃ entry, account.pending event.eventId = some entry ∧
      entry.event = event ∧ allowed entry) :
    related host (events.foldl (fun host event =>
      host.sendReliableEvent transport clientId event nowMs true) host) := by
  induction events generalizing host account with
  | nil => exact same host
  | cons event rest ih =>
      rw [List.map_cons, List.nodup_cons] at distinct
      obtain ⟨entry, pends, rfl, isAllowed⟩ := due event List.mem_cons_self
      have first := resend host account entry sameConfig has pends isAllowed
      obtain ⟨accepted, books⟩ :=
        send_event_books transport host clientId entry.event nowMs true has
      refine chained first (ih distinct.2 _ ?_ (account.answered entry.event nowMs accepted) ?_ ?_)
      · exact (send_event_rest transport host clientId entry.event nowMs true).2.trans sameConfig
      · rw [books, Books.record_accounts, Books.set_account_get, if_pos rfl]
      · intro other member
        -- Resending one event leaves the entries of the others.
        have apart : other.eventId ≠ entry.event.eventId := by
          intro sameId
          exact distinct.1 (List.mem_map.mpr ⟨other, member, sameId⟩)
        obtain ⟨held, isHeld, is, stillAllowed⟩ := due other (List.mem_cons_of_mem entry.event member)
        refine ⟨held, ?_, is, stillAllowed⟩
        unfold Account.answered
        split
        · unfold Account.track
          dsimp only
          rw [Function.update_of_ne apart]
          exact isHeld
        · exact isHeld

theorem resend_to_client_advances (hostOrder : HostOrder) (nowMs : TimestampMs)
    (host : ServerNetworkHost) (tidy : Tidy host) (clientId : ClientId) :
    Advances host (host.resendToClient transport hostOrder nowMs clientId) := by
  unfold resendToClient
  split
  · exact Advances.refl host
  · next state isState =>
      have has : (booksOf host).accounts clientId = some (accountOf state) := by
        unfold booksOf
        dsimp only
        rw [isState, Option.map_some]
      obtain ⟨distinct, due⟩ := due_pending state hostOrder (.pendingEvents clientId) nowMs
        host.config.reliableEventResendBaseIntervalMs host.config.reliableEventMaxSendCount
        (fun eventId entry => tidy.keyed clientId (accountOf state) eventId entry has)
      refine resend_events_relate transport Advances Advances.refl Advances.trans clientId nowMs _
        host.config ?_ _ distinct host rfl _ has due
      intro between account entry sameConfig isAccount pends isDue
      apply resend_event_advances transport between clientId entry.event nowMs isAccount pends rfl
      unfold cap
      rw [sameConfig]
      exact (Bool.and_eq_true_iff.mp isDue).1

theorem resend_advances (hostOrder : HostOrder) (host : ServerNetworkHost) (tidy : Tidy host)
    (nowMs : TimestampMs) :
    Advances host (host.resendPendingReliableEvents transport hostOrder nowMs) :=
  loop_advances _ _ host tidy fun clientId _ between tidyBetween _ =>
    resend_to_client_advances transport hostOrder nowMs between tidyBetween clientId

/-! Snapshots. -/

theorem follow_interest_advances (hostOrder : HostOrder) (nowMs : TimestampMs)
    (host : ServerNetworkHost) (tidy : Tidy host) (clientId : ClientId)
    (member : clientId ∈ host.clients) (planned : SnapshotDTO) :
    Advances host (host.followInterest transport hostOrder nowMs clientId planned) := by
  unfold followInterest
  split
  · exact Advances.refl host
  · next state isState =>
      dsimp only
      let (tracker, frame) := state.interest.update hostOrder (.exitedEntities clientId) planned
      let tracked := (host.updateClient clientId fun state =>
        { state with interest := tracker }).countStats (countInterest frame)
      have advances : Advances host tracked :=
        Advances.of_same rfl rfl (books_update_rest host clientId _ fun _ => rfl)
      exact advances.trans (interest_advances transport tracked (advances.tidy tidy) clientId member
        frame nowMs)

theorem requested_of_state {host : ServerNetworkHost} {clientId : ClientId}
    {state : ServerClientReplicationState} (has : host.clientStateById[clientId]? = some state) :
    host.requestedBaselineId clientId = state.ackedSnapshot := by
  unfold requestedBaselineId
  rw [has]
  rfl

/-- The planned snapshot carries the next snapshot id, and its baseline is the
last acknowledged one while the cache holds it. -/
theorem planned_snapshot_plan (order : LoopOrder) (host : ServerNetworkHost) (clientId : ClientId)
    {state : ServerClientReplicationState} (has : host.clientStateById[clientId]? = some state) :
    (host.plannedSnapshot order clientId).snapshot.snapshotId = host.runtime.nextSnapshotId ∧
    Planned (host.baselineCache.baselines clientId) state.ackedSnapshot
      (host.plannedSnapshot order clientId).snapshot
      (host.deltaBaseline clientId (host.plannedSnapshot order clientId).snapshot) := by
  refine ⟨rfl, ?_⟩
  have requested := requested_of_state has
  have kind : (host.plannedSnapshot order clientId).snapshot.deliveryKind =
      (host.baselineCache.decide clientId state.ackedSnapshot).deliveryKind := by
    rw [← requested]
    rfl
  have names : (host.plannedSnapshot order clientId).snapshot.baselineId =
      (host.baselineCache.decide clientId state.ackedSnapshot).effectiveBaselineId := by
    rw [← requested]
    rfl
  unfold deltaBaseline
  rcases host.baselineCache.decide_cases clientId state.ackedSnapshot with
    decision | ⟨nonzero, ⟨baseline, found⟩, decision⟩
  · rw [decision] at kind names
    rw [if_neg (by rw [kind]; exact SnapshotDeliveryKind.noConfusion)]
    exact Planned.full kind names
  · rw [decision] at kind names
    rw [if_pos kind, names, found]
    obtain ⟨isHeld, isAcked⟩ := SnapshotBaselineCache.find_some found
    exact Planned.delta baseline kind names nonzero isHeld isAcked

theorem store_advances (host : ServerNetworkHost) (clientId : ClientId) (planned : SnapshotDTO)
    (baseline : Option SnapshotDTO)
    (sent : Happening.handed clientId (.snapshot planned baseline) true ∈ host.trace) :
    Advances host (host.storeBaseline clientId planned) := by
  refine ⟨rfl, rfl, fun _ => rfl, ?_⟩
  have held : booksOf (host.storeBaseline clientId planned) =
      { booksOf host with
        held := Function.update (booksOf host).held clientId
          ((host.baselineCache.store clientId planned).baselines clientId) } := by
    unfold booksOf storeBaseline
    dsimp only
    congr 1
    funext other
    rw [Function.update_apply]
    split
    · next same => rw [same]
    · next different =>
        unfold SnapshotBaselineCache.baselines SnapshotBaselineCache.store
        dsimp only
        rw [get_insert, if_neg (Ne.symm different)]
  rw [held]
  refine (Move.baselineHeld clientId planned baseline _ sent ?_).moves
  intro snapshot member
  rcases SnapshotBaselineCache.mem_store member with old | ⟨_, new⟩
  · exact Or.inl old
  · exact Or.inr new

theorem send_snapshot_advances (order : LoopOrder) (hostOrder : HostOrder) (nowMs : TimestampMs)
    (host : ServerNetworkHost) (tidy : Tidy host) (clientId : ClientId)
    (member : clientId ∈ host.clients) :
    Advances host (host.sendSnapshot transport order hostOrder nowMs clientId).1 := by
  have enrolled := (tidy.enrolled clientId).mp member
  obtain ⟨account, has⟩ := Option.isSome_iff_exists.mp enrolled
  obtain ⟨state, isState, rfl⟩ := Option.map_eq_some_iff.mp has
  obtain ⟨sameId, plan⟩ := planned_snapshot_plan order host clientId isState
  unfold sendSnapshot
  dsimp only
  generalize host.plannedSnapshot order clientId = planned at sameId plan ⊢
  generalize host.deltaBaseline clientId planned.snapshot = baseline at plan ⊢
  -- The id is taken and the snapshot handed over at once.
  have handed (accepted : Bool) : Advances host
      ((host.numberSnapshot.countStats (countDeltaPlan planned.snapshot baseline)).record
        (.handed clientId (.snapshot planned.snapshot baseline) accepted)) := by
    have numbered := number_snapshot_advances host
    refine ⟨rfl, rfl, fun _ => rfl, numbered.moves.trans (Move.moves ?_)⟩
    refine Move.snapshotSent clientId planned.snapshot baseline accepted (accountOf state)
      host.trace has ?_ plan
    rw [sameId]
    rfl
  unfold send
  dsimp only
  generalize transport _ _ = accepted
  cases accepted with
  | false => exact handed false
  | true =>
      have advances := handed true
      have follow := follow_interest_advances transport hostOrder nowMs _ (advances.tidy tidy)
        clientId (by rw [advances.clients]; exact member) planned.snapshot
      refine (advances.trans follow).trans ?_
      refine (store_advances _ clientId planned.snapshot baseline ?_).trans
        (Advances.of_same rfl rfl rfl)
      obtain ⟨added, extended⟩ := moves_trace follow.moves
      have isTrace : (followInterest transport hostOrder nowMs
          ((host.numberSnapshot.countStats (countDeltaPlan planned.snapshot baseline)).record
            (.handed clientId (.snapshot planned.snapshot baseline) true)) clientId
          planned.snapshot).trace = _ := extended
      rw [isTrace]
      apply List.mem_append_left
      exact List.mem_append_right _ (List.mem_singleton.mpr rfl)

theorem snapshot_turn_advances (order : LoopOrder) (hostOrder : HostOrder) (nowMs : TimestampMs)
    (host : ServerNetworkHost) (tidy : Tidy host) (clientId : ClientId)
    (member : clientId ∈ host.clients) :
    Advances host (host.snapshotTurn transport order hostOrder nowMs clientId) := by
  have advances := send_snapshot_advances transport order hostOrder nowMs host tidy clientId member
  unfold snapshotTurn
  split
  · exact Advances.of_same rfl rfl rfl
  · split
    · next sent result =>
        rw [result] at advances
        refine advances.trans (Advances.of_same rfl rfl ?_)
        exact books_update_rest sent clientId _ fun _ => rfl
    · next sent result =>
        rw [result] at advances
        exact advances

theorem tick_advances (order : LoopOrder) (hostOrder : HostOrder) (host : ServerNetworkHost)
    (tidy : Tidy host) (nowMs : TimestampMs) :
    Advances host (host.tickAndSendSnapshots transport order hostOrder nowMs) := by
  unfold tickAndSendSnapshots
  generalize result : (host.runtime.tick order).drainEvents = drained
  obtain ⟨runtime, tickEvents⟩ := drained
  dsimp only
  have sameCounter : runtime.nextSnapshotId = host.runtime.nextSnapshotId := by
    rw [← (Prod.mk.inj result).1]
    rfl
  have ticked : Advances host { host with runtime := runtime } := by
    refine Advances.of_same rfl rfl ?_
    unfold booksOf
    dsimp only
    rw [sameCounter]
  have sent := loop_advances (snapshotTurn transport order hostOrder nowMs) host.clients _
    (ticked.tidy tidy) fun clientId member between tidyBetween sameClients =>
      snapshot_turn_advances transport order hostOrder nowMs between tidyBetween clientId
        (by rw [sameClients]; exact member)
  have soFar := ticked.trans sent
  have broadcast := broadcast_advances transport _ (soFar.tidy tidy) tickEvents nowMs
  have next := soFar.trans broadcast
  have resent := resend_advances transport hostOrder _ (next.tidy tidy) nowMs
  exact (next.trans resent).trans (Advances.of_same rfl rfl rfl)

end Sending

/-! Calls. -/

/-- What a call does, whether it enrolls a client or not. -/
structure Progress (before after : ServerNetworkHost) : Prop where
  config : after.config = before.config
  tidy : Tidy after
  moves : Moves (cap before) (booksOf before) (booksOf after)

theorem Advances.progress {before after : ServerNetworkHost} (advances : Advances before after)
    (tidy : Tidy before) : Progress before after :=
  ⟨advances.config, advances.tidy tidy, advances.moves⟩

theorem Progress.trans {first second third : ServerNetworkHost} (left : Progress first second)
    (right : Progress second third) : Progress first third := by
  refine ⟨right.config.trans left.config, right.tidy, ?_⟩
  have rest := right.moves
  unfold cap at rest
  rw [left.config] at rest
  exact left.moves.trans rest

theorem register_progress (host : ServerNetworkHost) (tidy : Tidy host) (clientId : ClientId)
    (new : clientId ∉ host.clients) : Progress host (host.registerClient clientId) := by
  have noAccount : (booksOf host).accounts clientId = none := by
    rw [← Option.not_isSome_iff_eq_none, ← tidy.enrolled]
    exact new
  have noState : host.clientStateById[clientId]? = none := Option.map_eq_none_iff.mp noAccount
  have books : booksOf (host.registerClient clientId) = (booksOf host).setAccount clientId {} := by
    unfold booksOf registerClient Books.setAccount
    dsimp only
    congr 1
    funext other
    rw [Std.ExtTreeMap.getElem?_insertIfNew, Function.update_apply]
    by_cases same : clientId = other
    · subst same
      have absent : clientId ∉ host.clientStateById :=
        by
        rw [Std.ExtTreeMap.mem_iff_isSome_getElem?, noState]
        exact Bool.false_ne_true
      simp [absent, accountOf]
    · have apart : ¬ compare clientId other = .eq := by
        rw [Std.LawfulEqCmp.compare_eq_iff_eq]
        exact same
      simp [apart, Ne.symm same]
  refine ⟨rfl, ⟨?_, ?_, ?_⟩, ?_⟩
  · exact List.nodup_append.mpr ⟨tidy.distinct, List.nodup_singleton clientId, by
      rintro other isOld _ isNew rfl
      rw [List.mem_singleton.mp isNew] at isOld
      exact new isOld⟩
  · intro other
    rw [books, Books.set_account_get]
    unfold registerClient
    dsimp only
    rw [List.mem_append, List.mem_singleton, tidy.enrolled]
    by_cases same : other = clientId
    · simp [same]
    · simp [same]
  · rw [books]
    exact move_keyed (cap host) _ _ (Move.enrolled clientId noAccount) tidy.keyed
  · rw [books]
    exact (Move.enrolled clientId noAccount).moves

theorem same_counter_advances (host : ServerNetworkHost) (runtime : ServerRuntime)
    (sameCounter : runtime.nextSnapshotId = host.runtime.nextSnapshotId) :
    Advances host { host with runtime := runtime } := by
  refine Advances.of_same rfl rfl ?_
  unfold booksOf
  dsimp only
  rw [sameCounter]

theorem login_progress (host : ServerNetworkHost) (tidy : Tidy host) (envelope : NetworkEnvelope) :
    Progress host (host.handleLoginEnvelope envelope) := by
  unfold handleLoginEnvelope
  split
  · exact (Advances.refl host).progress tidy
  · next login _ =>
      dsimp only
      generalize isConnected : ({ host.countStats (fun stats =>
          { stats with loginRequests := stats.loginRequests + 1 }) with
        runtime := (host.runtime.connectClient login.header.clientId
          login.header.clientTimestampMs).1 } : ServerNetworkHost) = connected
      have advances : Advances host connected := by
        subst isConnected
        exact Advances.of_same rfl rfl rfl
      split
      · subst isConnected
        exact advances.progress tidy
      · split
        · subst isConnected
          exact advances.progress tidy
        · next new =>
            refine (advances.progress tidy).trans ?_
            subst isConnected
            exact register_progress _ (advances.tidy tidy) login.header.clientId new

theorem quiet_progress {before after : ServerNetworkHost} (tidy : Tidy before)
    (clients : after.clients = before.clients) (config : after.config = before.config)
    (books : booksOf after = booksOf before) : Progress before after :=
  (Advances.of_same clients config books).progress tidy

theorem input_progress (host : ServerNetworkHost) (tidy : Tidy host) (envelope : NetworkEnvelope) :
    Progress host (host.handleInputEnvelope envelope) := by
  unfold handleInputEnvelope
  split
  · exact quiet_progress tidy rfl rfl rfl
  · dsimp only
    split
    · exact quiet_progress tidy rfl rfl rfl
    · exact quiet_progress tidy rfl rfl rfl

/-- An accepted acknowledgement replaces the account and is recorded. -/
theorem acknowledged_progress {host after : ServerNetworkHost} (tidy : Tidy host)
    (clientId : ClientId) {account next : Account} {happening : Happening}
    (has : (booksOf host).accounts clientId = some account)
    (clients : after.clients = host.clients) (config : after.config = host.config)
    (books : booksOf after = ((booksOf host).setAccount clientId next).record happening)
    (move : Move (cap host) (booksOf host)
      (((booksOf host).setAccount clientId next).record happening)) : Progress host after := by
  apply Advances.progress _ tidy
  refine ⟨clients, config, ?_, ?_⟩
  · intro other
    rw [books]
    exact set_account_some _ clientId account next has other
  · rw [books]
    exact move.moves

theorem has_account {host : ServerNetworkHost} {clientId : ClientId}
    {state : ServerClientReplicationState} (isState : host.clientStateById[clientId]? = some state) :
    (booksOf host).accounts clientId = some (accountOf state) := by
  unfold booksOf
  dsimp only
  rw [isState, Option.map_some]

theorem snapshot_ack_progress (host : ServerNetworkHost) (tidy : Tidy host)
    (envelope : NetworkEnvelope) : Progress host (host.handleSnapshotAckEnvelope envelope) := by
  have rejected : Progress host host.rejectSnapshotAck := quiet_progress tidy rfl rfl rfl
  unfold handleSnapshotAckEnvelope
  split
  · exact quiet_progress tidy rfl rfl rfl
  · next ack _ =>
      split
      · exact rejected
      · next state isState =>
          split
          · exact rejected
          · next found =>
              split
              · exact rejected
              · next newer =>
                  obtain ⟨snapshot, isFound⟩ := Option.ne_none_iff_exists'.mp
                    (Option.isNone_iff_eq_none.not.mp found)
                  obtain ⟨isHeld, sameId⟩ := SnapshotBaselineCache.find_some isFound
                  have isNewer : state.ackedSnapshot < ack.snapshotId := by
                    unfold acknowledgeSnapshot at newer
                    split at newer
                    · simp at newer
                    · next above => exact UInt32.not_le.mp above
                  have acknowledged : accountOf (state.acknowledgeSnapshot ack.snapshotId).1 =
                      { accountOf state with acked := ack.snapshotId } := by
                    unfold acknowledgeSnapshot
                    rw [if_neg (UInt32.not_le.mpr isNewer)]
                    rfl
                  have books := books_update_client host ack.clientId
                    (fun state => (state.acknowledgeSnapshot ack.snapshotId).1) isState
                  rw [acknowledged] at books
                  exact acknowledged_progress tidy ack.clientId (has_account isState) rfl rfl
                    (congrArg (fun books => Books.record books
                      (.snapshotAcked ack.clientId ack.snapshotId)) books)
                    (Move.snapshotAcked ack.clientId ack.snapshotId (accountOf state)
                      (has_account isState) ⟨snapshot, isHeld, sameId⟩ isNewer)

theorem event_ack_progress (host : ServerNetworkHost) (tidy : Tidy host)
    (envelope : NetworkEnvelope) :
    Progress host (host.handleNetworkEventAckEnvelope envelope) := by
  have rejected : Progress host host.rejectEventAck := quiet_progress tidy rfl rfl rfl
  unfold handleNetworkEventAckEnvelope
  split
  · exact quiet_progress tidy rfl rfl rfl
  · next ack _ =>
      split
      · exact rejected
      · next state isState =>
          split
          · exact rejected
          · next erased =>
              have present : ack.eventId ∈ state.pendingReliableEvents := by
                unfold acknowledgeReliableEvent at erased
                simpa using erased
              obtain ⟨entry, pends⟩ := Option.isSome_iff_exists.mp
                (Std.ExtTreeMap.mem_iff_isSome_getElem?.mp present)
              have acknowledged : accountOf (state.acknowledgeReliableEvent ack.eventId).1 =
                  { accountOf state with
                    pending := Function.update (accountOf state).pending ack.eventId none } := by
                unfold accountOf acknowledgeReliableEvent
                dsimp only
                congr 1
                funext eventId
                rw [get_erase, Function.update_apply]
                simp only [eq_comm]
              have books := books_update_client host ack.clientId
                (fun state => (state.acknowledgeReliableEvent ack.eventId).1) isState
              rw [acknowledged] at books
              exact acknowledged_progress tidy ack.clientId (has_account isState) rfl rfl
                (congrArg (fun books => Books.record books
                  (.eventAcked ack.clientId ack.eventId)) books)
                (Move.eventAcked ack.clientId ack.eventId (accountOf state) entry
                  (has_account isState) pends)

theorem time_sync_progress (transport : Transport) (host : ServerNetworkHost) (tidy : Tidy host)
    (envelope : NetworkEnvelope) :
    Progress host (host.handleTimeSyncEnvelope transport envelope) := by
  unfold handleTimeSyncEnvelope
  split
  · exact quiet_progress tidy rfl rfl rfl
  · next request _ =>
      dsimp only
      have synced (response : TimeSyncResponse) (accepted : Bool) (after : ServerNetworkHost)
          (clients : after.clients = host.clients) (config : after.config = host.config)
          (books : booksOf after =
            (booksOf host).record (.handed request.clientId (.timeSync response) accepted)) :
          Progress host after := by
        apply Advances.progress _ tidy
        refine ⟨clients, config, ?_, ?_⟩
        · intro other
          rw [books]
          rfl
        · rw [books]
          exact (Move.timeSynced request.clientId response accepted).moves
      split
      · exact synced _ _ _ rfl rfl rfl
      · exact synced _ _ _ rfl rfl rfl

theorem envelope_progress (transport : Transport) (host : ServerNetworkHost) (tidy : Tidy host)
    (envelope : NetworkEnvelope) : Progress host (host.handleEnvelope transport envelope) := by
  unfold handleEnvelope
  split
  · exact quiet_progress tidy rfl rfl rfl
  · split
    · exact login_progress host tidy envelope
    · exact input_progress host tidy envelope
    · exact snapshot_ack_progress host tidy envelope
    · exact event_ack_progress host tidy envelope
    · exact time_sync_progress transport host tidy envelope
    · exact quiet_progress tidy rfl rfl rfl

/-- Every call makes moves in the books. -/
theorem host_step_progress (transport : Transport) (host : ServerNetworkHost) (tidy : Tidy host)
    (call : HostCall) : Progress host (hostStep transport host call) := by
  cases call with
  | connectSimulationOnlyClient clientId nowMs => exact quiet_progress tidy rfl rfl rfl
  | pumpClientMessages polled =>
      apply Runs.run_invariant (handleEnvelope transport) (Progress host)
      · exact fun between envelope progress =>
          progress.trans (envelope_progress transport between progress.tidy envelope)
      · exact quiet_progress tidy rfl rfl rfl
  | tickAndSendSnapshots order hostOrder nowMs =>
      exact (tick_advances transport order hostOrder host tidy nowMs).progress tidy
  | drainEvents => exact quiet_progress tidy rfl rfl rfl
  | buildSnapshotFor => exact (number_snapshot_advances host).progress tidy
  | changeRuntime runtime => exact quiet_progress tidy rfl rfl rfl

theorem new_tidy (config : ServerNetworkHostConfig) : Tidy (.new config) := by
  refine ⟨List.nodup_nil, ?_, ?_⟩
  · intro clientId
    simp [ServerNetworkHost.new, booksOf]
  · intro clientId account eventId entry has
    simp [ServerNetworkHost.new, booksOf] at has

/-- Every run of a host makes moves from empty books. -/
theorem host_run_progress (transport : Transport) (config : ServerNetworkHostConfig)
    (calls : List HostCall) : Progress (.new config) (hostRun transport config calls) := by
  apply Runs.run_invariant (hostStep transport) (Progress (.new config))
  · exact fun host call progress =>
      progress.trans (host_step_progress transport host progress.tidy call)
  · exact quiet_progress (new_tidy config) rfl rfl rfl

theorem new_books (config : ServerNetworkHostConfig) : booksOf (.new config) = {} := rfl

end Brawololo.HostBookkeeping
