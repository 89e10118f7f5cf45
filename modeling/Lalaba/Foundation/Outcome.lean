/-!
# What a computation yields

A check that throws or returns is an `Except`.  `Yields` is the partial
correctness of such a computation: what holds of the value it returns.
-/

namespace Lalaba.Foundation

def Yields {Error Value : Type} (computed : Except Error Value)
    (spec : Value → Prop) : Prop :=
  ∀ value, computed = .ok value → spec value

section

variable {Error Value Next : Type} {spec : Value → Prop}

theorem Yields.pure {value : Value} (holds : spec value) :
    Yields (Pure.pure value : Except Error Value) spec := by
  intro _ returned
  cases returned
  exact holds

theorem Yields.ok {value : Value} (holds : spec value) :
    Yields (.ok value : Except Error Value) spec :=
  Yields.pure holds

theorem Yields.error {error : Error} : Yields (.error error : Except Error Value) spec := by
  intro _ returned
  cases returned

theorem Yields.bind {checked : Except Error Next}
    {rest : Next → Except Error Value}
    (yields : ∀ value, checked = .ok value → Yields (rest value) spec) :
    Yields (checked >>= rest) spec := by
  rcases outcome : checked with error | value
  · exact Yields.error
  · exact yields value outcome

theorem Yields.checked {checked : Except Error Next} {rest : Except Error Value}
    (yields : Yields rest spec) : Yields (checked >>= fun _ => rest) spec :=
  Yields.bind fun _ _ => yields

theorem Yields.after {checked : Except Error Next} {value : Value}
    (holds : spec value) :
    Yields (checked >>= fun _ => Pure.pure value) spec :=
  Yields.checked (Yields.pure holds)

end

theorem toOption_eq_some {Error Value : Type}
    {computed : Except Error Value} {value : Value} :
    computed.toOption = some value ↔ computed = .ok value := by
  cases computed <;> simp [Except.toOption]

theorem map_eq_ok {Error Value Result : Type}
    {computed : Except Error Value} {change : Value → Result}
    {result : Result} :
    computed.map change = .ok result ↔ ∃ value, computed = .ok value ∧ change value = result := by
  cases computed <;> simp [Except.map]

theorem bind_eq_ok {Error Value Result : Type} {computed : Except Error Value}
    {next : Value → Except Error Result} {result : Result} :
    computed >>= next = .ok result ↔ ∃ value, computed = .ok value ∧ next value = .ok result := by
  cases computed <;> simp [Bind.bind, Except.bind]

theorem mapM_map {Error Input Changed Output Result : Type}
    {change : Input → Changed} {each : Changed → Except Error Result}
    {each' : Input → Except Error Output} {adapt : Output → Result}
    (alike : ∀ input, each (change input) = (each' input).map adapt)
    (inputs : List Input) :
    (inputs.map change).mapM each = (inputs.mapM each').map (List.map adapt) := by
  induction inputs with
  | nil => rfl
  | cons input inputs induction =>
    rw [List.map_cons, List.mapM_cons, List.mapM_cons, induction, alike]
    cases each' input with
    | error _ => rfl
    | ok output =>
      cases inputs.mapM each' with
      | error | ok => rfl

theorem mapM_ok {Error Input Output : Type}
    {each : Input → Except Error Output} {output : Input → Output}
    {inputs : List Input}
    (returns : ∀ input ∈ inputs, each input = .ok (output input)) :
    inputs.mapM each = .ok (inputs.map output) := by
  induction inputs with
  | nil => rfl
  | cons input rest induction =>
    rw [List.mapM_cons, returns input List.mem_cons_self, induction fun other member =>
        returns other (List.mem_cons_of_mem input member)]
    rfl

theorem mapM_yields {Error Input Output : Type}
    {each : Input → Except Error Output} {property : Output → Prop}
    (yields : ∀ input, Yields (each input) property)
    (inputs : List Input) :
    Yields (inputs.mapM each) fun outputs =>
      ∀ output ∈ outputs, property output := by
  induction inputs with
  | nil =>
    apply Yields.pure
    exact fun _ member => (List.not_mem_nil member).elim
  | cons input inputs induction =>
    rw [List.mapM_cons]
    apply Yields.bind
    intro output computed
    apply Yields.bind
    intro outputs rest
    apply Yields.pure
    intro other member
    rcases List.mem_cons.mp member with rfl | later
    · exact yields input _ computed
    · exact induction _ rest other later

end Lalaba.Foundation
