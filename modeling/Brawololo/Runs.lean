import Mathlib.Tactic

/-!
Runs of a step function over a list of inputs, and the rules that carry a fact
about one step to a whole run.
-/

namespace Brawololo.Runs

universe u v w

variable {State : Type u} {Input : Type v}

def run (step : State → Input → State) (start : State) (inputs : List Input) : State :=
  inputs.foldl step start

variable (step : State → Input → State)

@[simp] theorem run_nil (start : State) : run step start [] = start := rfl

@[simp] theorem run_cons (start : State) (input : Input) (rest : List Input) :
    run step start (input :: rest) = run step (step start input) rest := rfl

theorem run_append (start : State) (first second : List Input) :
    run step start (first ++ second) = run step (run step start first) second :=
  List.foldl_append

/-- An invariant that every step keeps holds after every run. -/
theorem run_invariant (holds : State → Prop)
    (kept : ∀ state input, holds state → holds (step state input))
    (start : State) (initially : holds start) (inputs : List Input) :
    holds (run step start inputs) := by
  induction inputs generalizing start with
  | nil => exact initially
  | cons input rest ih => exact ih (step start input) (kept start input initially)

/-- An invariant that the inputs of the run keep holds after the run. -/
theorem run_invariant_of_mem (holds : State → Prop) (inputs : List Input)
    (kept : ∀ input ∈ inputs, ∀ state, holds state → holds (step state input))
    (start : State) (initially : holds start) : holds (run step start inputs) := by
  induction inputs generalizing start with
  | nil => exact initially
  | cons input rest ih =>
      apply ih
      · exact fun other member => kept other (List.mem_cons_of_mem input member)
      · exact kept input List.mem_cons_self start initially

/-- A reflexive and transitive relation that holds across every step holds
across every run. -/
theorem run_relates (related : State → State → Prop) (same : ∀ state, related state state)
    (chained : ∀ {first second third}, related first second → related second third →
      related first third)
    (kept : ∀ state input, related state (step state input))
    (start : State) (inputs : List Input) : related start (run step start inputs) := by
  induction inputs generalizing start with
  | nil => exact same start
  | cons input rest ih => exact chained (kept start input) (ih (step start input))

/-- A relation between two states that every step keeps holds between their runs. -/
theorem run_respects (alike : State → State → Prop)
    (respects : ∀ one two input, alike one two → alike (step one input) (step two input))
    {one two : State} (initially : alike one two) (inputs : List Input) :
    alike (run step one inputs) (run step two inputs) := by
  induction inputs generalizing one two with
  | nil => exact initially
  | cons input rest ih => exact ih (respects one two input initially)

/-- A run seen through `view` is the run of the steps seen through it. -/
theorem run_viewed {Other : Type w} {step' : Other → Input → Other} (view : State → Other)
    (commutes : ∀ state input, view (step state input) = step' (view state) input)
    (start : State) (inputs : List Input) :
    view (run step start inputs) = run step' (view start) inputs := by
  induction inputs generalizing start with
  | nil => rfl
  | cons input rest ih =>
      rw [run_cons, run_cons, ih, commutes]

/-- `met` holds of every step of the run, at the state the step starts from. -/
def EveryStep (met : State → Input → Prop) : State → List Input → Prop
  | _, [] => True
  | state, input :: rest => met state input ∧ EveryStep met (step state input) rest

theorem every_step_append (met : State → Input → Prop) (start : State)
    (first second : List Input) :
    EveryStep step met start (first ++ second) ↔
      EveryStep step met start first ∧ EveryStep step met (run step start first) second := by
  induction first generalizing start with
  | nil => simp [EveryStep]
  | cons input rest ih => simp [EveryStep, ih, and_assoc]

/-- A condition on every step is one on the state before each input. -/
theorem every_step_iff_split (met : State → Input → Prop) (start : State) (inputs : List Input) :
    EveryStep step met start inputs ↔
      ∀ earlier input later, inputs = earlier ++ input :: later →
        met (run step start earlier) input := by
  induction inputs generalizing start with
  | nil => simp [EveryStep]
  | cons head rest ih =>
      rw [EveryStep, ih]
      constructor
      · rintro ⟨first, others⟩ earlier input later split
        cases earlier with
        | nil =>
            cases split
            exact first
        | cons other earlier =>
            obtain ⟨sameHead, sameRest⟩ := List.cons.inj split
            subst sameHead
            exact others earlier input later sameRest
      · intro all
        refine ⟨all [] head rest rfl, ?_⟩
        intro earlier input later split
        exact all (head :: earlier) input later (congrArg (List.cons head) split)

/-- An invariant kept by the steps that meet a condition holds after every run
whose steps all meet it. -/
theorem run_invariant_when (holds : State → Prop) (met : State → Input → Prop)
    (kept : ∀ state input, holds state → met state input → holds (step state input))
    (start : State) (initially : holds start) (inputs : List Input)
    (everyStep : EveryStep step met start inputs) : holds (run step start inputs) := by
  induction inputs generalizing start with
  | nil => exact initially
  | cons input rest ih =>
      exact ih (step start input) (kept start input initially everyStep.1) everyStep.2

/-- Where the steps that meet a condition keep an invariant, they meet whatever
follows from both. -/
theorem every_step_when (holds : State → Prop) (met asked : State → Input → Prop)
    (kept : ∀ state input, holds state → met state input → holds (step state input))
    (implied : ∀ state input, holds state → met state input → asked state input)
    (start : State) (initially : holds start) (inputs : List Input)
    (everyStep : EveryStep step met start inputs) : EveryStep step asked start inputs := by
  induction inputs generalizing start with
  | nil => trivial
  | cons input rest ih =>
      exact ⟨implied start input initially everyStep.1,
        ih (step start input) (kept start input initially everyStep.1) everyStep.2⟩

/-- Two conditions that agree at every state with the invariant agree on runs. -/
theorem every_step_iff (holds : State → Prop) (met asked : State → Input → Prop)
    (kept : ∀ state input, holds state → holds (step state input))
    (agree : ∀ state input, holds state → (met state input ↔ asked state input))
    (start : State) (initially : holds start) (inputs : List Input) :
    EveryStep step met start inputs ↔ EveryStep step asked start inputs := by
  induction inputs generalizing start with
  | nil => exact Iff.rfl
  | cons input rest ih =>
      exact and_congr (agree start input initially)
        (ih (step start input) (kept start input initially))

section Passing

variable (related : State → State → Prop)

/-- The states that a run passes, its first and its last included. -/
def states (start : State) : List Input → List State
  | [] => [start]
  | input :: rest => start :: states (step start input) rest

theorem run_mem_states (start : State) (inputs : List Input) :
    run step start inputs ∈ states step start inputs := by
  induction inputs generalizing start with
  | nil => exact List.mem_singleton.mpr rfl
  | cons input rest ih => exact List.mem_cons_of_mem _ (ih (step start input))

/-- The list leads from the first state to the last: each state in it is related
to all that come later. -/
structure Passes (first last : State) (passed : List State) : Prop where
  whole : related first last
  inside : ∀ state ∈ passed, related first state ∧ related state last
  ordered : passed.Pairwise related

theorem passes_one {first last : State} (whole : related first last)
    (same : related last last) : Passes related first last [last] := by
  refine ⟨whole, ?_, List.pairwise_singleton related last⟩
  intro state member
  rw [List.mem_singleton.mp member]
  exact ⟨whole, same⟩

theorem passes_append (chained : ∀ {first second third}, related first second →
      related second third → related first third) {first middle last : State}
    {one two : List State} (begins : Passes related first middle one)
    (ends : Passes related middle last two) : Passes related first last (one ++ two) := by
  refine ⟨chained begins.whole ends.whole, ?_, ?_⟩
  · intro state member
    rcases List.mem_append.mp member with isOne | isTwo
    · obtain ⟨toState, onward⟩ := begins.inside state isOne
      exact ⟨toState, chained onward ends.whole⟩
    · obtain ⟨toState, onward⟩ := ends.inside state isTwo
      exact ⟨chained begins.whole toState, onward⟩
  · refine List.pairwise_append.mpr ⟨begins.ordered, ends.ordered, ?_⟩
    intro early isOne late isTwo
    exact chained (begins.inside early isOne).2 (ends.inside late isTwo).1

/-- A list may be entered from earlier on. -/
theorem passes_after (chained : ∀ {first second third}, related first second →
      related second third → related first third) {first second last : State}
    {passed : List State} (begins : related first second)
    (passes : Passes related second last passed) : Passes related first last passed := by
  refine ⟨chained begins passes.whole, ?_, passes.ordered⟩
  intro state member
  obtain ⟨onward, ends⟩ := passes.inside state member
  exact ⟨chained begins onward, ends⟩

/-- A relation across every step of a run relates all the states it passes. -/
theorem states_pass (same : ∀ state, related state state)
    (chained : ∀ {first second third}, related first second → related second third →
      related first third)
    (kept : ∀ state input, related state (step state input)) (start : State)
    (inputs : List Input) :
    Passes related start (run step start inputs) (states step start inputs) := by
  induction inputs generalizing start with
  | nil => exact passes_one related (same start) (same start)
  | cons input rest ih =>
      have begins := passes_one related (same start) (same start)
      have onward := passes_after related chained (kept start input) (ih (step start input))
      exact passes_append related chained begins onward

/-- An invariant holds at every state that a run passes. -/
theorem states_invariant (holds : State → Prop)
    (kept : ∀ state input, holds state → holds (step state input))
    (start : State) (initially : holds start) (inputs : List Input) :
    ∀ state ∈ states step start inputs, holds state := by
  induction inputs generalizing start with
  | nil =>
      intro state member
      rw [List.mem_singleton.mp member]
      exact initially
  | cons input rest ih =>
      intro state member
      rcases List.mem_cons.mp member with rfl | later
      · exact initially
      · exact ih (step start input) (kept start input initially) state later

end Passing

section Logs

variable {Entry : Type v} (put : List Entry → State → State)

/-- A stage that appends to the log of a state and reads nothing of it. -/
def AppendsToLog (stage : State → State) : Prop :=
  ∀ state, ∃ after added, ∀ log, stage (put log state) = put (log ++ added) after

variable {put}

theorem log_nothing : AppendsToLog put fun state => state :=
  fun state => ⟨state, [], fun log => by rw [List.append_nil]⟩

theorem AppendsToLog.comp {first second : State → State} (one : AppendsToLog put first)
    (two : AppendsToLog put second) : AppendsToLog put fun state => second (first state) := by
  intro state
  obtain ⟨middle, early, isMiddle⟩ := one state
  obtain ⟨after, late, isAfter⟩ := two middle
  refine ⟨after, early ++ late, fun log => ?_⟩
  dsimp only
  rw [isMiddle, isAfter, List.append_assoc]

theorem log_run {step : State → Input → State}
    (steps : ∀ input, AppendsToLog put fun state => step state input) (inputs : List Input) :
    AppendsToLog put fun state => run step state inputs := by
  induction inputs with
  | nil => exact log_nothing
  | cons input rest ih => exact (steps input).comp ih

end Logs

end Brawololo.Runs
