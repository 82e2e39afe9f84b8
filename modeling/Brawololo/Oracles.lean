import Brawololo.Runs

/-!
Stages that ask an oracle. A state keeps a log, the oracle answers a question
from the log as it stands, and every answer makes the log longer. A stage then
hears of its oracle only the answers at the logs it passes through, so stages
that each had an oracle of their own, one after another, are stages of one
oracle.
-/

namespace Brawololo.Oracles

universe u v w x y z

variable {Entry : Type u} {Question : Type v}

abbrev Oracle (Entry : Type u) (Question : Type v) := List Entry → Question → Bool

/-- The oracles answer alike at every log from the first length up to the last. -/
def AgreeFrom (first last : Nat) (one two : Oracle Entry Question) : Prop :=
  ∀ asked question, first ≤ asked.length → asked.length < last →
    one asked question = two asked question

/-- One oracle below a length, another from it on. -/
def changedAt (length : Nat) (early late : Oracle Entry Question) : Oracle Entry Question :=
  fun asked question =>
    if asked.length < length then early asked question else late asked question

theorem changed_early {first length : Nat} (early late : Oracle Entry Question) :
    AgreeFrom first length early (changedAt length early late) := by
  intro asked question _ short
  rw [changedAt, if_pos short]

theorem changed_late {length last : Nat} (early late : Oracle Entry Question) :
    AgreeFrom length last late (changedAt length early late) := by
  intro asked question long _
  rw [changedAt, if_neg (Nat.not_lt.mpr long)]

theorem agree_within {first last inner outer : Nat} {one two : Oracle Entry Question}
    (agree : AgreeFrom first last one two) (later : first ≤ inner) (sooner : outer ≤ last) :
    AgreeFrom inner outer one two :=
  fun asked question long short =>
    agree asked question (Nat.le_trans later long) (Nat.lt_of_lt_of_le short sooner)

section Stages

variable {State : Type w} {Middle : Type x} {After : Type y} {Key : Type z}
variable {before : State → List Entry} {between : Middle → List Entry}
variable {after : After → List Entry}

/-- A stage that lengthens the log, and is the same under two oracles that answer
alike at the logs it passes through. -/
structure Local (before : State → List Entry) (after : After → List Entry)
    (stage : Oracle Entry Question → State → After) : Prop where
  grows : ∀ oracle state, (before state).length ≤ (after (stage oracle state)).length
  hears : ∀ one two state,
    AgreeFrom (before state).length (after (stage one state)).length one two →
    stage two state = stage one state

theorem Local.congr {stage other : Oracle Entry Question → State → After}
    (stages : Local before after stage)
    (same : ∀ oracle state, other oracle state = stage oracle state) :
    Local before after other := by
  have isStage : other = stage := funext fun oracle => funext fun state => same oracle state
  rw [isStage]
  exact stages

/-- A stage that asks nothing. -/
theorem local_silent {stage : State → After}
    (grows : ∀ state, (before state).length ≤ (after (stage state)).length) :
    Local before after fun (_ : Oracle Entry Question) state => stage state :=
  ⟨fun _ => grows, fun _ _ _ _ => rfl⟩

/-- A stage that asks once, and writes down that it did. -/
theorem local_ask (question : State → Question) (noted : Bool → State → After)
    (longer : ∀ answer state, (before state).length < (after (noted answer state)).length) :
    Local before after fun oracle state =>
      noted (oracle (before state) (question state)) state := by
  constructor
  · exact fun oracle state => Nat.le_of_lt (longer _ state)
  · intro one two state agree
    rw [← agree (before state) (question state) (Nat.le_refl _) (longer _ state)]

theorem Local.comp {first : Oracle Entry Question → State → Middle}
    {second : Oracle Entry Question → Middle → After} (one : Local before between first)
    (two : Local between after second) :
    Local before after fun oracle state => second oracle (first oracle state) := by
  constructor
  · exact fun oracle state => Nat.le_trans (one.grows oracle state) (two.grows oracle _)
  · intro oracle other state agree
    have early := agree_within agree (Nat.le_refl _) (two.grows oracle (first oracle state))
    have late := agree_within agree (one.grows oracle state) (Nat.le_refl _)
    rw [one.hears oracle other state early, two.hears oracle other _ late]

/-- A stage chosen by the state it starts from. -/
theorem local_key (key : State → Key) (stage : Key → Oracle Entry Question → State → After)
    (stages : ∀ key, Local before after (stage key)) :
    Local before after fun oracle state => stage (key state) oracle state :=
  ⟨fun oracle state => (stages (key state)).grows oracle state,
    fun one two state => (stages (key state)).hears one two state⟩

/-- Two ways on, of which the state chooses one. -/
theorem local_ite {chosen : State → Prop} [DecidablePred chosen]
    {first second : Oracle Entry Question → State → After} (one : Local before after first)
    (two : Local before after second) :
    Local before after fun oracle state =>
      if chosen state then first oracle state else second oracle state := by
  constructor
  · intro oracle state
    split
    · exact one.grows oracle state
    · exact two.grows oracle state
  · intro oracle other state agree
    split at agree
    · next holds => rw [if_pos holds, if_pos holds, one.hears oracle other state agree]
    · next fails => rw [if_neg fails, if_neg fails, two.hears oracle other state agree]

theorem local_loop {log : State → List Entry} {Item : Type x}
    {turn : Oracle Entry Question → State → Item → State}
    (turns : ∀ item, Local log log fun oracle state => turn oracle state item)
    (items : List Item) :
    Local log log fun oracle state => items.foldl (turn oracle) state := by
  induction items with
  | nil => exact local_silent fun _ => Nat.le_refl _
  | cons item rest ih => exact (turns item).comp ih

end Stages

section Runs

variable {State : Type w} {Input : Type x} (log : State → List Entry)
variable (step : Oracle Entry Question → State → Input → State)

/-- The state is reached by these inputs under some oracle. -/
def Realised (start : State) (inputs : List Input) (reached : State) : Prop :=
  ∃ oracle, reached = Runs.run (step oracle) start inputs

theorem realised_nothing (start : State) : Realised step start [] start :=
  ⟨fun _ _ => false, rfl⟩

theorem realised_step (oracle : Oracle Entry Question) (start : State) (input : Input) :
    Realised step start [input] (step oracle start input) :=
  ⟨oracle, rfl⟩

variable {log step}

/-- What was reached under one oracle and then under another is reached under
one: the second takes over where the log of the first ends. -/
theorem realised_trans (steps : ∀ input, Local log log fun oracle state => step oracle state input)
    {start middle reached : State} {early late : List Input}
    (first : Realised step start early middle) (second : Realised step middle late reached) :
    Realised step start (early ++ late) reached := by
  obtain ⟨one, isMiddle⟩ := first
  obtain ⟨two, isReached⟩ := second
  have runs : ∀ inputs, Local log log fun oracle state =>
      Runs.run (step oracle) state inputs := local_loop steps
  let joined := changedAt (log middle).length one two
  have sameEarly : Runs.run (step joined) start early = Runs.run (step one) start early := by
    apply (runs early).hears one joined start
    rw [← isMiddle]
    exact changed_early one two
  have sameLate : Runs.run (step joined) middle late = Runs.run (step two) middle late :=
    (runs late).hears two joined middle (changed_late one two)
  refine ⟨joined, ?_⟩
  rw [Runs.run_append, sameEarly, ← isMiddle, sameLate, isReached]

end Runs

end Brawololo.Oracles
