import Brawololo.Histories
import Brawololo.Simulation

/-!
The ledger of a fight: the domain events in order, each with the number of the
tick that queued it, read without the simulation. A player is born whole, loses
health by hits, dies of the hit that takes the rest of it, and is born again in
the first tick whose time reaches its respawn time.
-/

namespace Brawololo.CombatLedger

open GameTypes Simulation Histories

abbrev Entry := Nat × DomainEvent

abbrev Ledger := List Entry

def stamp (tick : Nat) (events : EventList) : Ledger := events.map fun event => (tick, event)

/-- The clock of a server after this many ticks. -/
def tickTime (config : SimulationConfig) : Nat → TimestampMs
  | 0 => 0
  | ticks + 1 => tickTime config ticks + config.tickDurationMs

/-- The event is an entry of the account of the player with this id. -/
def concerns (id : NetworkEntityId) : DomainEvent → Bool
  | .playerSpawned event => event.entityId = id
  | .hitConfirmed event => event.targetId = id
  | .playerDamaged event => event.entityId = id
  | .playerDied event => event.entityId = id
  | .playerRespawned event => event.entityId = id
  | _ => false

/-- The entries of one player. -/
def account (id : NetworkEntityId) (ledger : Ledger) : Ledger :=
  ledger.filter fun entry => concerns id entry.2

/-- What the entries so far say about a player. -/
structure Standing where
  health : Int32
  defeated : Bool := false
  respawnAtMs : TimestampMs := 0
  diedIn : Nat := 0
  deriving DecidableEq

def born (config : SimulationConfig) : Standing := { health := config.maxPlayerHealth }

def Standing.damaged (standing : Standing) (event : PlayerDamaged) : Standing :=
  { standing with health := event.healthAfter }

def Standing.killed (standing : Standing) (tick : Nat) (event : PlayerDied) : Standing :=
  { standing with defeated := true, respawnAtMs := event.respawnAtMs, diedIn := tick }

def enter (config : SimulationConfig) (id : NetworkEntityId) (standing : Option Standing)
    (entry : Entry) : Option Standing :=
  if concerns id entry.2 then
    match entry.2 with
    | .playerSpawned _ => some (born config)
    | .playerDamaged event => standing.map fun standing => standing.damaged event
    | .playerDied event => standing.map fun standing => standing.killed entry.1 event
    | .playerRespawned _ => standing.map fun _ => born config
    | _ => standing
  else standing

/-- Folding the ledger for one player. -/
def standingOf (config : SimulationConfig) (id : NetworkEntityId) (ledger : Ledger) :
    Option Standing :=
  ledger.foldl (enter config id) none

/-! What is asked of the entries. -/

/-- A hit on a living player and the damage it does. -/
structure Strikes (standing : Standing) (hit : HitConfirmed) (damage : PlayerDamaged) : Prop where
  aimed : hit.targetId = damage.entityId
  alive : standing.defeated = false
  fair : 0 ≤ damage.damage.toInt
  remains : damage.healthAfter.toInt = max 0 (standing.health.toInt - damage.damage.toInt)

/-- The tick is the first, from the death on, whose time reaches the respawn time. -/
structure FirstDue (config : SimulationConfig) (standing : Standing) (tick : Nat) : Prop where
  since : standing.diedIn ≤ tick
  reached : standing.respawnAtMs ≤ tickTime config tick
  first : ∀ earlier, standing.diedIn ≤ earlier → earlier < tick →
    tickTime config earlier < standing.respawnAtMs

/-- The entries of one player: a birth, then damage, deaths and respawns in turn. -/
inductive Life (config : SimulationConfig) (id : NetworkEntityId) : Ledger → Standing → Prop
  | spawned (tick : Nat) (event : PlayerSpawned) (named : event.entityId = id) :
      Life config id [(tick, .playerSpawned event)] (born config)
  | damaged (tick : Nat) (hit : HitConfirmed) (damage : PlayerDamaged) {entries : Ledger}
      {standing : Standing} (life : Life config id entries standing)
      (named : damage.entityId = id) (strikes : Strikes standing hit damage)
      (survives : damage.healthAfter ≠ 0) :
      Life config id (entries ++ [(tick, .hitConfirmed hit), (tick, .playerDamaged damage)])
        (standing.damaged damage)
  | died (tick : Nat) (hit : HitConfirmed) (damage : PlayerDamaged) (death : PlayerDied)
      {entries : Ledger} {standing : Standing} (life : Life config id entries standing)
      (named : damage.entityId = id) (strikes : Strikes standing hit damage)
      (falls : damage.healthAfter = 0) (dies : death.entityId = id)
      (delayed : death.respawnAtMs = tickTime config tick + config.respawnDelayMs) :
      Life config id
        (entries ++ [(tick, .hitConfirmed hit), (tick, .playerDamaged damage),
          (tick, .playerDied death)])
        ((standing.damaged damage).killed tick death)
  | respawned (tick : Nat) (event : PlayerRespawned) {entries : Ledger} {standing : Standing}
      (life : Life config id entries standing) (named : event.entityId = id)
      (defeated : standing.defeated = true) (due : FirstDue config standing tick) :
      Life config id (entries ++ [(tick, .playerRespawned event)]) (born config)

/-- A ledger in which every entry follows from the entries before it. -/
inductive Faithful (config : SimulationConfig) : Ledger → Prop
  | opened : Faithful config []
  | other (tick : Nat) (event : DomainEvent) {ledger : Ledger} (faithful : Faithful config ledger)
      (quiet : ∀ id, concerns id event = false) : Faithful config (ledger ++ [(tick, event)])
  | spawned (tick : Nat) (event : PlayerSpawned) {ledger : Ledger}
      (faithful : Faithful config ledger)
      (fresh : standingOf config event.entityId ledger = none) :
      Faithful config (ledger ++ [(tick, .playerSpawned event)])
  | damaged (tick : Nat) (hit : HitConfirmed) (damage : PlayerDamaged) {ledger : Ledger}
      {standing : Standing} (faithful : Faithful config ledger)
      (known : standingOf config damage.entityId ledger = some standing)
      (strikes : Strikes standing hit damage) (survives : damage.healthAfter ≠ 0) :
      Faithful config (ledger ++ [(tick, .hitConfirmed hit), (tick, .playerDamaged damage)])
  | died (tick : Nat) (hit : HitConfirmed) (damage : PlayerDamaged) (death : PlayerDied)
      {ledger : Ledger} {standing : Standing} (faithful : Faithful config ledger)
      (known : standingOf config damage.entityId ledger = some standing)
      (strikes : Strikes standing hit damage) (falls : damage.healthAfter = 0)
      (dies : death.entityId = damage.entityId)
      (delayed : death.respawnAtMs = tickTime config tick + config.respawnDelayMs) :
      Faithful config (ledger ++ [(tick, .hitConfirmed hit), (tick, .playerDamaged damage),
        (tick, .playerDied death)])
  | respawned (tick : Nat) (event : PlayerRespawned) {ledger : Ledger} {standing : Standing}
      (faithful : Faithful config ledger)
      (known : standingOf config event.entityId ledger = some standing)
      (defeated : standing.defeated = true) (due : FirstDue config standing tick) :
      Faithful config (ledger ++ [(tick, .playerRespawned event)])

/-! Reading the ledger of a player past entries that do not concern it. -/

variable {config : SimulationConfig} {id : NetworkEntityId} {ledger : Ledger}

theorem account_append (added : Ledger) :
    account id (ledger ++ added) = account id ledger ++ account id added :=
  List.filter_append ledger added

theorem account_silent {added : Ledger} (silent : ∀ entry ∈ added, concerns id entry.2 = false) :
    account id added = [] := by
  apply List.filter_eq_nil_iff.mpr
  intro entry member
  rw [silent entry member]
  exact Bool.false_ne_true

theorem enter_silent (standing : Option Standing) {entry : Entry}
    (silent : concerns id entry.2 = false) : enter config id standing entry = standing := by
  unfold enter
  rw [silent]
  rfl

theorem standing_append (added : Ledger) :
    standingOf config id (ledger ++ added) =
      added.foldl (enter config id) (standingOf config id ledger) :=
  List.foldl_append

theorem standing_silent {added : Ledger} (silent : ∀ entry ∈ added, concerns id entry.2 = false) :
    standingOf config id (ledger ++ added) = standingOf config id ledger := by
  rw [standing_append]
  induction added with
  | nil => rfl
  | cons entry rest ih =>
      rw [List.foldl_cons, enter_silent _ (silent entry List.mem_cons_self)]
      exact ih fun other member => silent other (List.mem_cons_of_mem entry member)

/-! What one block of entries does to the standing of its player. -/

section Blocks

variable {standing : Standing} {hit : HitConfirmed} {damage : PlayerDamaged} {death : PlayerDied}

theorem standing_spawned (tick : Nat) (event : PlayerSpawned) (named : event.entityId = id) :
    standingOf config id (ledger ++ [(tick, .playerSpawned event)]) = some (born config) := by
  rw [standing_append]
  simp [enter, concerns, named]

theorem standing_damaged (tick : Nat) (strikes : Strikes standing hit damage)
    (known : standingOf config damage.entityId ledger = some standing) :
    standingOf config damage.entityId
      (ledger ++ [(tick, .hitConfirmed hit), (tick, .playerDamaged damage)]) =
        some (standing.damaged damage) := by
  rw [standing_append, known]
  simp [enter, concerns, strikes.aimed]

theorem standing_died (tick : Nat) (strikes : Strikes standing hit damage)
    (dies : death.entityId = damage.entityId)
    (known : standingOf config damage.entityId ledger = some standing) :
    standingOf config damage.entityId
      (ledger ++ [(tick, .hitConfirmed hit), (tick, .playerDamaged damage),
        (tick, .playerDied death)]) =
        some ((standing.damaged damage).killed tick death) := by
  rw [standing_append, known]
  simp [enter, concerns, strikes.aimed, dies]

theorem standing_respawned (tick : Nat) (event : PlayerRespawned) (named : event.entityId = id)
    (known : standingOf config id ledger = some standing) :
    standingOf config id (ledger ++ [(tick, .playerRespawned event)]) = some (born config) := by
  rw [standing_append, known]
  simp [enter, concerns, named]

end Blocks

/-- The account of a player is a life with the standing that the ledger gives,
and a player the ledger does not know has no entries. -/
def LivesOf (config : SimulationConfig) (ledger : Ledger) (id : NetworkEntityId) : Prop :=
  match standingOf config id ledger with
  | none => account id ledger = []
  | some standing => Life config id (account id ledger) standing

theorem lives_silent {added : Ledger} (silent : ∀ entry ∈ added, concerns id entry.2 = false)
    (lives : LivesOf config ledger id) : LivesOf config (ledger ++ added) id := by
  unfold LivesOf at lives ⊢
  rw [standing_silent silent, account_append, account_silent silent, List.append_nil]
  exact lives

theorem lives_known {standing : Standing} (lives : LivesOf config ledger id)
    (known : standingOf config id ledger = some standing) :
    Life config id (account id ledger) standing := by
  unfold LivesOf at lives
  rw [known] at lives
  exact lives

/-- A faithful ledger holds one life for every player. -/
theorem faithful_lives (faithful : Faithful config ledger) : ∀ id, LivesOf config ledger id := by
  induction faithful with
  | opened => exact fun id => rfl
  | other tick event _ quiet ih =>
      -- An entry of one player leaves the lives of all others alone.
      intro id
      apply lives_silent _ (ih id)
      intro entry member
      rw [List.mem_singleton.mp member]
      exact quiet id
  | @spawned tick event ledger _ fresh ih =>
      intro id
      by_cases named : event.entityId = id
      · have nothing := ih id
        rw [named] at fresh
        unfold LivesOf at nothing ⊢
        rw [fresh] at nothing
        rw [standing_spawned tick event named, account_append, nothing]
        simpa [account, concerns, named] using Life.spawned tick event named
      · exact lives_silent (by simp [concerns, named]) (ih id)
  | @damaged tick hit damage ledger standing _ known strikes survives ih =>
      intro id
      by_cases named : damage.entityId = id
      · subst named
        have life := Life.damaged tick hit damage (lives_known (ih _) known) rfl strikes survives
        unfold LivesOf
        rw [standing_damaged tick strikes known, account_append]
        simpa [account, concerns, strikes.aimed] using life
      · exact lives_silent (by simp [concerns, strikes.aimed, named]) (ih id)
  | @died tick hit damage death ledger standing _ known strikes falls dies delayed ih =>
      intro id
      by_cases named : damage.entityId = id
      · subst named
        have life := Life.died tick hit damage death (lives_known (ih _) known) rfl strikes falls
          dies delayed
        unfold LivesOf
        rw [standing_died tick strikes dies known, account_append]
        simpa [account, concerns, strikes.aimed, dies] using life
      · exact lives_silent (by simp [concerns, strikes.aimed, dies, named]) (ih id)
  | @respawned tick event ledger standing _ known defeated due ih =>
      intro id
      by_cases named : event.entityId = id
      · subst named
        have life := Life.respawned tick event (lives_known (ih _) known) rfl defeated due
        unfold LivesOf
        rw [standing_respawned tick event rfl known, account_append]
        simpa [account, concerns] using life
      · exact lives_silent (by simp [concerns, named]) (ih id)

/-! The health of a life. -/

/-- Health between zero and the maximum, and none left exactly in defeat. -/
structure InBounds (config : SimulationConfig) (standing : Standing) : Prop where
  atLeast : 0 ≤ standing.health.toInt
  atMost : standing.health.toInt ≤ config.maxPlayerHealth.toInt
  spent : standing.defeated = true ↔ standing.health = 0

theorem born_in_bounds (healthy : 0 < config.maxPlayerHealth.toInt) :
    InBounds config (born config) where
  atLeast := Int.le_of_lt healthy
  atMost := Int.le_refl _
  spent := by
    constructor
    · intro impossible
      cases impossible
    · intro empty
      have zero : config.maxPlayerHealth.toInt = 0 := congrArg Int32.toInt empty
      omega

theorem life_in_bounds (healthy : 0 < config.maxPlayerHealth.toInt) {entries : Ledger}
    {standing : Standing} (life : Life config id entries standing) : InBounds config standing := by
  induction life with
  | spawned => exact born_in_bounds healthy
  | @damaged tick hit damage entries standing _ named strikes survives ih =>
      obtain ⟨atLeast, atMost, spent⟩ := ih
      obtain ⟨aimed, alive, fair, remains⟩ := strikes
      refine ⟨?_, ?_, ?_⟩
      · simp only [Standing.damaged]
        omega
      · simp only [Standing.damaged]
        omega
      · simp [Standing.damaged, alive, survives]
  | @died tick hit damage death entries standing _ named strikes falls =>
      have zero : damage.healthAfter.toInt = 0 := congrArg Int32.toInt falls
      refine ⟨?_, ?_, ?_⟩
      · simp only [Standing.damaged, Standing.killed]
        omega
      · simp only [Standing.damaged, Standing.killed]
        omega
      · simp [Standing.damaged, Standing.killed, falls]
  | respawned => exact born_in_bounds healthy

/-- A player is born once. -/
def isBirth (entry : Entry) : Bool :=
  match entry.2 with
  | .playerSpawned _ => true
  | _ => false

theorem life_born_once {entries : Ledger} {standing : Standing}
    (life : Life config id entries standing) : (entries.filter isBirth).length = 1 := by
  induction life with
  | spawned => rfl
  | damaged tick hit damage _ _ _ _ ih => simpa [List.filter_append, isBirth] using ih
  | died tick hit damage death _ _ _ _ _ _ ih => simpa [List.filter_append, isBirth] using ih
  | respawned tick event _ _ _ _ ih => simpa [List.filter_append, isBirth] using ih

/-! Neighbours in the whole ledger. -/

/-- The entry right before: a damage comes after its hit, a death after the
damage that took the last health. -/
def Preceded (earlier : Ledger) (entry : Entry) : Prop :=
  match entry.2 with
  | .playerDamaged damage => ∃ before hit,
      earlier = before ++ [(entry.1, .hitConfirmed hit)] ∧ hit.targetId = damage.entityId
  | .playerDied death => ∃ before damage,
      earlier = before ++ [(entry.1, .playerDamaged damage)] ∧
        damage.entityId = death.entityId ∧ damage.healthAfter = 0
  | _ => True

/-- The entry right after: the death follows the damage that took the last health. -/
def DeathFollows (ledger : Ledger) : Prop :=
  ∀ earlier tick damage later, ledger = earlier ++ (tick, .playerDamaged damage) :: later →
    damage.healthAfter = 0 →
    ∃ death rest, later = (tick, .playerDied death) :: rest ∧ death.entityId = damage.entityId

theorem quiet_preceded (earlier : Ledger) {entry : Entry}
    (quiet : ∀ id, concerns id entry.2 = false) : Preceded earlier entry := by
  obtain ⟨tick, event⟩ := entry
  cases event
  case playerDamaged damage => exact absurd (quiet damage.entityId) (by simp [concerns])
  case playerDied death => exact absurd (quiet death.entityId) (by simp [concerns])
  all_goals trivial

theorem faithful_preceded (faithful : Faithful config ledger) : EveryEvent Preceded ledger := by
  induction faithful with
  | opened => exact every_event_nil Preceded
  | other tick event _ quiet ih =>
      exact (every_event_concat _ _ _).mpr ⟨ih, quiet_preceded _ quiet⟩
  | spawned tick event _ _ ih => exact (every_event_concat _ _ _).mpr ⟨ih, trivial⟩
  | @damaged tick hit damage ledger standing _ _ strikes _ ih =>
      have struck := (every_event_concat Preceded ledger (tick, .hitConfirmed hit)).mpr
        ⟨ih, trivial⟩
      have hurt := (every_event_concat Preceded _ (tick, .playerDamaged damage)).mpr
        ⟨struck, ledger, hit, rfl, strikes.aimed⟩
      simpa using hurt
  | @died tick hit damage death ledger standing _ _ strikes falls dies _ ih =>
      have struck := (every_event_concat Preceded ledger (tick, .hitConfirmed hit)).mpr
        ⟨ih, trivial⟩
      have hurt := (every_event_concat Preceded _ (tick, .playerDamaged damage)).mpr
        ⟨struck, ledger, hit, rfl, strikes.aimed⟩
      have dead := (every_event_concat Preceded _ (tick, .playerDied death)).mpr
        ⟨hurt, _, damage, rfl, dies.symm, falls⟩
      simpa using dead
  | respawned tick event _ _ _ _ ih => exact (every_event_concat _ _ _).mpr ⟨ih, trivial⟩

/-- An entry that is no fatal damage may be added. -/
theorem death_follows_concat {entry : Entry} (follows : DeathFollows ledger)
    (mild : ∀ damage, entry.2 = .playerDamaged damage → damage.healthAfter ≠ 0) :
    DeathFollows (ledger ++ [entry]) := by
  intro earlier tick damage later split fatal
  rcases split_concat split with ⟨_, _, same⟩ | ⟨rest, rfl, inner⟩
  · exact absurd fatal (mild damage (congrArg Prod.snd same).symm)
  · obtain ⟨death, others, isDeath, dies⟩ := follows earlier tick damage rest inner fatal
    exact ⟨death, others ++ [entry], by rw [isDeath]; rfl, dies⟩

theorem death_follows_died {tick : Nat} {damage : PlayerDamaged} {death : PlayerDied}
    (follows : DeathFollows ledger) (dies : death.entityId = damage.entityId) :
    DeathFollows (ledger ++ [(tick, .playerDamaged damage)] ++ [(tick, .playerDied death)]) := by
  intro earlier tick' damage' later split fatal
  rcases split_concat split with ⟨_, _, same⟩ | ⟨rest, rfl, hurt⟩
  · cases congrArg Prod.snd same
  · rcases split_concat hurt with ⟨rfl, _, same⟩ | ⟨between, rfl, inner⟩
    · cases same
      exact ⟨death, [], rfl, dies⟩
    · obtain ⟨first, others, isDeath, follows⟩ :=
        follows earlier tick' damage' between inner fatal
      exact ⟨first, others ++ [(tick, .playerDamaged damage)] ++ [(tick, .playerDied death)],
        by rw [isDeath]; rfl, follows⟩

theorem faithful_death_follows (faithful : Faithful config ledger) : DeathFollows ledger := by
  induction faithful with
  | opened =>
      intro earlier tick damage later split
      cases earlier <;> cases split
  | other tick event _ quiet ih =>
      apply death_follows_concat ih
      rintro damage rfl
      exact absurd (quiet damage.entityId) (by simp [concerns])
  | spawned tick event _ _ ih => exact death_follows_concat ih (by simp)
  | damaged tick hit damage _ _ _ survives ih =>
      have struck : DeathFollows (_ ++ [(tick, .hitConfirmed hit)]) :=
        death_follows_concat ih (by simp)
      have hurt : DeathFollows (_ ++ [(tick, .playerDamaged damage)]) :=
        death_follows_concat struck (by rintro _ ⟨⟩; exact survives)
      simpa using hurt
  | died tick hit damage death _ _ _ _ dies _ ih =>
      have struck : DeathFollows (_ ++ [(tick, .hitConfirmed hit)]) :=
        death_follows_concat ih (by simp)
      have dead : DeathFollows (_ ++ [(tick, .playerDamaged damage)] ++
        [(tick, .playerDied death)]) := death_follows_died struck dies
      simpa using dead
  | respawned tick event _ _ _ _ ih => exact death_follows_concat ih (by simp)

end Brawololo.CombatLedger
