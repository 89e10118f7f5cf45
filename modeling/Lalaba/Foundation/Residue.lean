import Mathlib.Data.List.Basic

/-!
# What an erasure leaves

Two states are alike when they are the same once some of their data are hidden.  An
erasure leaves of these data exactly a residue when alike states are erased to the
same state just when they have the same residue.
-/

namespace Lalaba.Foundation

variable {State Shown Erased Rest : Type}

/-- Of what `hide` conceals, `erase` leaves exactly `rest`. -/
def Leaves (hide : State → Shown) (erase : State → Erased)
    (rest : State → Rest) : Prop :=
  ∀ ⦃first second : State⦄, hide first = hide second →
    (erase first = erase second ↔ rest first = rest second)

namespace Leaves

variable {hide : State → Shown} {erase : State → Erased} {rest : State → Rest}

/--
It leaves what can be read off its outcome, when the outcome is made of that and of
what is shown.
-/
theorem of_split (read : Erased → Rest) (make : Shown → Rest → Erased)
    (kept : ∀ state, read (erase state) = rest state)
    (made : ∀ state, make (hide state) (rest state) = erase state) :
    Leaves hide erase rest := by
  intro first second alike
  constructor
  · intro same
    rw [← kept, ← kept, same]
  · intro same
    rw [← made, ← made, alike, same]

theorem provided {erase : State → State} (leaves : Leaves hide erase rest)
    (happens : Bool) :
    Leaves hide (fun state => if happens then erase state else state) (fun state =>
        if happens then (.inl (rest state) : Rest ⊕ State)
        else .inr state) := by
  intro first second alike
  dsimp only
  cases happens with
  | true =>
    rw [if_pos rfl, if_pos rfl, if_pos rfl, if_pos rfl, Sum.inl.injEq]
    exact leaves alike
  | false =>
    rw [if_neg Bool.false_ne_true, if_neg Bool.false_ne_true,
      if_neg Bool.false_ne_true, if_neg Bool.false_ne_true, Sum.inr.injEq]

theorem map {Row Row' Row'' : Type} {hide : Row → Row'}
    {erase : Row → Row''} {rest : Row → Rest}
    (leaves : Leaves hide erase rest) :
    Leaves (List.map hide) (List.map erase) (List.map rest) := by
  intro first
  induction first with
  | nil =>
    intro second alike
    cases second with
    | nil => exact iff_of_true rfl rfl
    | cons row rows => cases alike
  | cons row rows induction =>
    intro second alike
    cases second with
    | nil => cases alike
    | cons row' rows' =>
      simp only [List.map_cons, List.cons.injEq] at alike ⊢
      exact and_congr (leaves alike.1) (induction alike.2)

end Leaves

end Lalaba.Foundation
