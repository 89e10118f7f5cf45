import Mathlib.Data.List.Basic

/-!
# Reachable states of a labelled system

A system is a partial step function on states: an action is either refused or
leads to one next state.  Everything a concurrent program can do is one choice
of actions, so a property of every interleaving is a property of every run.

Runs here carry an admissibility condition on single steps.  The condition
`fun _ _ => True` gives all runs; a stronger one restricts a statement to the
runs in which no step takes a particular branch.
-/

namespace Lalaba.Foundation

/-- A system whose actions are refused or lead to one next state. -/
structure System (State Action : Type) where
  step : Action → State → Option State

namespace System

variable {State Action : Type} (system : System State Action)

/-- The states a run can reach when each of its steps is admissible. -/
inductive Reaches (admissible : State → Action → Prop) (start : State) : State → Prop where
  | refl : Reaches admissible start start
  | next {state after : State} {action : Action}
      (earlier : Reaches admissible start state)
      (allowed : admissible state action)
      (stepped : system.step action state = some after) :
      Reaches admissible start after

variable {system}

variable {admissible : State → Action → Prop} {start state finish : State}

theorem Reaches.trans {middle : State}
    (first : system.Reaches admissible start middle)
    (second : system.Reaches admissible middle finish) :
    system.Reaches admissible start finish := by
  induction second with
  | refl => exact first
  | next _ allowed stepped induction =>
    exact .next induction allowed stepped

theorem Reaches.weaken {strong weak : State → Action → Prop}
    (weaker : ∀ state action, strong state action → weak state action)
    (reached : system.Reaches strong start state) :
    system.Reaches weak start state := by
  induction reached with
  | refl => exact .refl
  | next _ allowed stepped induction =>
    exact .next induction (weaker _ _ allowed) stepped

/--
The invariant rule: what holds at the start and is kept by every admissible
step holds in every state reached.
-/
theorem Reaches.invariant (Invariant : State → Prop) (initial : Invariant start)
    (preserved : ∀ state action after, Invariant state →
      admissible state action → system.step action state = some after →
      Invariant after) (reached : system.Reaches admissible start state) :
    Invariant state := by
  induction reached with
  | refl => exact initial
  | next _ allowed stepped induction =>
    exact preserved _ _ _ induction allowed stepped

/--
The layered invariant rule: a step may count on what every state reached is
known to satisfy.
-/
theorem Reaches.layered (Known Invariant : State → Prop)
    (known : ∀ state, system.Reaches admissible start state → Known state)
    (initial : Invariant start)
    (preserved : ∀ state action after, Known state → Invariant state →
      admissible state action → system.step action state = some after →
      Invariant after) (reached : system.Reaches admissible start state) :
    Invariant state := by
  induction reached with
  | refl => exact initial
  | next earlier allowed stepped induction =>
    exact preserved _ _ _ (known _ earlier) induction allowed stepped

/--
The progress rule: a reflexive and transitive relation that every admissible
step from an invariant state respects relates the two ends of a run.
-/
theorem Reaches.relates (Invariant : State → Prop)
    (Relation : State → State → Prop) (initial : Invariant start)
    (preserved : ∀ state action after, Invariant state →
      admissible state action → system.step action state = some after →
      Invariant after) (reflexive : ∀ state, Relation state state)
    (transitive : ∀ first second third, Relation first second →
      Relation second third → Relation first third)
    (related : ∀ state action after, Invariant state →
      admissible state action → system.step action state = some after →
      Relation state after) (reached : system.Reaches admissible start state) :
    Relation start state := by
  have both : Invariant state ∧ Relation start state := by
    induction reached with
    | refl => exact ⟨initial, reflexive _⟩
    | next _ allowed stepped induction =>
      exact
        ⟨preserved _ _ _ induction.1 allowed stepped,
          transitive _ _ _ induction.2 (related _ _ _ induction.1 allowed stepped)⟩
  exact both.2

/--
The refinement rule: when every step from an invariant state leaves the projected
state alone or is a step of another system there, a run is a run of that system.
-/
theorem Reaches.refines {Coarse Label : Type} {coarse : System Coarse Label}
    {admissible' : Coarse → Label → Prop} (project : State → Coarse)
    (Invariant : State → Prop) (initial : Invariant start)
    (preserved : ∀ state action after,
      coarse.Reaches admissible' (project start) (project state) →
      Invariant state → admissible state action →
      system.step action state = some after → Invariant after)
    (matched : ∀ state action after,
      coarse.Reaches admissible' (project start) (project state) →
      Invariant state → admissible state action →
      system.step action state = some after → project after = project state ∨ ∃ label,
        admissible' (project state) label ∧
          coarse.step label (project state) = some (project after))
    (reached : system.Reaches admissible start state) :
    Invariant state ∧ coarse.Reaches admissible' (project start) (project state) := by
  induction reached with
  | refl => exact ⟨initial, .refl⟩
  | next _ allowed stepped induction =>
    rcases induction with ⟨invariant, ran⟩
    refine ⟨preserved _ _ _ ran invariant allowed stepped, ?_⟩
    rcases matched _ _ _ ran invariant allowed stepped with
      same | ⟨label, allowed', stepped'⟩
    · rw [same]
      exact ran
    · exact .next ran allowed' stepped'

def observed {Record : Type} (system : System State Action)
    (see : State → Action → State → Record → Record) :
    System (State × Record) Action where
  step action both :=
    (system.step action both.1).map fun after =>
      (after, see both.1 action after both.2)

theorem observed_step {Record : Type}
    {see : State → Action → State → Record → Record}
    {action : Action} {both both' : State × Record}
    (stepped : (system.observed see).step action both = some both') :
    system.step action both.1 = some both'.1 ∧ both'.2 = see both.1 action both'.1 both.2 := by
  rcases Option.map_eq_some_iff.mp stepped with ⟨after, stepped', rfl⟩
  exact ⟨stepped', rfl⟩

theorem Reaches.unobserved {Record : Type}
    {see : State → Action → State → Record → Record}
    {start both : State × Record} (reached : (system.observed see).Reaches
      (fun both action => admissible both.1 action) start both) :
    system.Reaches admissible start.1 both.1 := by
  induction reached with
  | refl => exact .refl
  | next _ allowed stepped induction =>
    exact .next induction allowed (observed_step stepped).1

/-- Perform a list of actions; `none` as soon as one of them is refused. -/
def perform (system : System State Action) :
    List Action → State → Option State
  | [], state => some state
  | action :: rest, state =>
    (system.step action state).bind (system.perform rest)

@[simp]
theorem perform_nil (state : State) :
    system.perform [] state = some state :=
  rfl

theorem perform_cons (action : Action) (rest : List Action)
    (state : State) :
    system.perform (action :: rest) state = (system.step action state).bind (system.perform rest) :=
  rfl

variable {actions : List Action} {Value : Type}

theorem reaches_of_perform
    (performed : system.perform actions start = some finish) :
    system.Reaches (fun _ _ => True) start finish := by
  induction actions generalizing start with
  | nil =>
    cases performed
    exact .refl
  | cons action rest induction =>
    rw [perform_cons] at performed
    obtain ⟨middle, stepped, remaining⟩ := Option.bind_eq_some_iff.mp performed
    have head : system.Reaches (fun _ _ => True) start middle := .next .refl trivial stepped
    exact head.trans (induction remaining)

def restrict (system : System State Action)
    (admissible : State → Action → Prop)
    [∀ state action, Decidable (admissible state action)] :
    System State Action where
  step action state :=
    if admissible state action then system.step action state else none

theorem restrict_step [∀ state action, Decidable (admissible state action)]
    {action : Action} {after : State}
    (stepped : (system.restrict admissible).step action state = some after) :
    admissible state action ∧ system.step action state = some after := by
  simp only [restrict] at stepped
  split at stepped
  · exact ⟨by assumption, stepped⟩
  · cases stepped

theorem reaches_of_restrict
    [∀ state action, Decidable (admissible state action)]
    (reached : (system.restrict admissible).Reaches (fun _ _ => True) start state) :
    system.Reaches admissible start state := by
  induction reached with
  | refl => exact .refl
  | next _ _ stepped induction =>
    rcases restrict_step stepped with ⟨allowed, stepped'⟩
    exact .next induction allowed stepped'

theorem reaches_of_perform_restrict
    [∀ state action, Decidable (admissible state action)]
    (performed : (system.restrict admissible).perform actions start = some finish) :
    system.Reaches admissible start finish :=
  reaches_of_restrict (reaches_of_perform performed)

/-! What a performed list of actions computes is computed of a state reached. -/

theorem reaches_of_map {read : State → Value} {value : Value}
    (performed : (system.perform actions start).map read = some value) :
    ∃ state, system.Reaches (fun _ _ => True) start state ∧ read state = value := by
  rcases Option.map_eq_some_iff.mp performed with ⟨state, ran, reads⟩
  exact ⟨state, reaches_of_perform ran, reads⟩

theorem reaches_of_bind {read : State → Option Value} {value : Value}
    (performed : (system.perform actions start).bind read = some value) :
    ∃ state, system.Reaches (fun _ _ => True) start state ∧ read state = some value := by
  rcases Option.bind_eq_some_iff.mp performed with ⟨state, ran, reads⟩
  exact ⟨state, reaches_of_perform ran, reads⟩

theorem reaches_of_map_restrict
    [∀ state action, Decidable (admissible state action)] {read : State → Value}
    {value : Value} (performed :
      ((system.restrict admissible).perform actions start).map read = some value) :
    ∃ state, system.Reaches admissible start state ∧ read state = value := by
  rcases reaches_of_map performed with ⟨state, reached, reads⟩
  exact ⟨state, reaches_of_restrict reached, reads⟩

theorem reaches_of_bind_restrict
    [∀ state action, Decidable (admissible state action)]
    {read : State → Option Value} {value : Value} (performed :
      ((system.restrict admissible).perform actions start).bind read = some value) :
    ∃ state, system.Reaches admissible start state ∧ read state = some value := by
  rcases reaches_of_bind performed with ⟨state, reached, reads⟩
  exact ⟨state, reaches_of_restrict reached, reads⟩

end System

end Lalaba.Foundation
