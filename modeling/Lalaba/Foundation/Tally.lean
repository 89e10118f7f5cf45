import Mathlib.Algebra.BigOperators.Group.List.Basic
import Mathlib.Algebra.Field.Rat
import Mathlib.Algebra.Order.BigOperators.Group.List
import Mathlib.Data.List.Nodup
import Mathlib.Tactic.Abel
import Mathlib.Tactic.FieldSimp

/-!
# Sums and means kept by differences

A table of rows with a key is summed over the rows that count.  When one row is
written, the sum moves by the difference of what that row contributes.  A mean
that is kept beside its count can be moved by such a difference alone.
-/

namespace Lalaba.Foundation

section

variable {Row Amount : Type} [AddCommGroup Amount]

def tally (counts : Row → Bool) (amount : Row → Amount)
    (rows : List Row) : Amount :=
  ((rows.filter counts).map amount).sum

def contribution (counts : Row → Bool) (amount : Row → Amount)
    (row : Row) : Amount :=
  if counts row then amount row else 0

variable {counts : Row → Bool} {amount : Row → Amount}

@[simp]
theorem tally_nil : tally counts amount [] = 0 := rfl

theorem tally_cons (row : Row) (rows : List Row) :
    tally counts amount (row :: rows) =
      contribution counts amount row + tally counts amount rows := by
  by_cases counted : counts row = true
  · simp [tally, contribution, counted]
  · simp [tally, contribution, counted]

theorem tally_append (first second : List Row) :
    tally counts amount (first ++ second) =
      tally counts amount first + tally counts amount second := by
  simp [tally]

theorem tally_singleton (row : Row) :
    tally counts amount [row] = contribution counts amount row := by
  rw [tally_cons, tally_nil, add_zero]

theorem tally_or {first second : Row → Bool}
    (either : ∀ row, counts row = (first row || second row))
    (apart : ∀ row, first row = true → second row = false)
    (rows : List Row) :
    tally counts amount rows = tally first amount rows + tally second amount rows := by
  induction rows with
  | nil => simp
  | cons row rows induction =>
    have parts : contribution counts amount row =
        contribution first amount row + contribution second amount row := by
      rw [contribution, contribution, contribution, either]
      cases here : first row with
      | false => simp
      | true => simp [apart row here]
    rw [tally_cons, tally_cons, tally_cons, induction, parts]
    abel

variable {rows : List Row}

theorem tally_map_of_eq {change : Row → Row}
    (same : ∀ row ∈ rows, change row = row) :
    tally counts amount (rows.map change) = tally counts amount rows := by
  rw [List.map_congr_left same, List.map_id'']
  exact fun _ => rfl

theorem tally_update {Key : Type} [DecidableEq Key] {key : Row → Key}
    (unique : (rows.map key).Nodup) {row : Row} (stored : row ∈ rows)
    (change : Row → Row) :
    tally counts amount (rows.map fun other =>
          if key other = key row then change other else other) =
      tally counts amount rows +
        (contribution counts amount (change row) - contribution counts amount row) := by
  induction rows with
  | nil => cases stored
  | cons first rest induction =>
    rw [List.map_cons, List.nodup_cons] at unique
    rw [List.map_cons, tally_cons, tally_cons]
    by_cases here : key first = key row
    · -- The keys are unique, so no later row is written.
      have isIt : row = first := by
        rcases List.mem_cons.mp stored with isIt | later
        · exact isIt
        · exact absurd (here ▸ List.mem_map_of_mem later) unique.1
      subst isIt
      have others : ∀ other ∈ rest,
          (if key other = key row then change other else other) =
            other := by
        intro other later
        have apart : key other ≠ key row := by
          intro same
          apply unique.1
          rw [← same]
          exact List.mem_map_of_mem later
        exact if_neg apart
      rw [if_pos rfl, tally_map_of_eq others]
      abel
    · have later : row ∈ rest := by
        rcases List.mem_cons.mp stored with isIt | later
        · exact absurd (congrArg key isIt.symm) here
        · exact later
      rw [if_neg here, induction unique.2 later]
      abel

theorem tally_eq_zero (none : rows.filter counts = []) : tally counts amount rows = 0 := by
  rw [tally, none]
  rfl

theorem tally_eq_tally_iff [LinearOrder Amount] [IsOrderedAddMonoid Amount]
    {other : Row → Amount}
    (le : ∀ row ∈ rows, counts row = true → amount row ≤ other row) :
    tally counts amount rows = tally counts other rows ↔
      ∀ row ∈ rows, counts row = true → amount row = other row := by
  induction rows with
  | nil => simp
  | cons row rows induction =>
    have head : contribution counts amount row ≤
        contribution counts other row := by
      rw [contribution, contribution]
      split
      · next counted => exact le row List.mem_cons_self counted
      · exact le_rfl
    have tail : tally counts amount rows ≤ tally counts other rows := by
      apply List.sum_le_sum
      intro row mem
      have ⟨mem, counted⟩ := List.mem_filter.mp mem
      exact le row (List.mem_cons_of_mem _ mem) counted
    rw [tally_cons, tally_cons, add_eq_add_iff_eq_and_eq head tail,
      induction fun row mem => le row (List.mem_cons_of_mem _ mem),
      List.forall_mem_cons]
    apply and_congr_left'
    rw [contribution, contribution]
    by_cases counted : counts row = true
    · simp [counted]
    · simp [counted]

end

/-- An average over a number of rows with a sum; over no rows it is zero. -/
structure Mean (count : ℤ) (sum average : ℚ) : Prop where
  counted : 0 < count → average = sum / count
  empty : count = 0 → average = 0 ∧ sum = 0

theorem Mean.sum_eq {count : ℤ} {sum average : ℚ}
    (mean : Mean count sum average) (nonneg : 0 ≤ count) :
    average * count = sum := by
  rcases nonneg.eq_or_lt with zero | positive
  · rw [← zero, (mean.empty zero.symm).2]
    simp
  · have positive' : (count : ℚ) ≠ 0 := by
      exact_mod_cast positive.ne'
    rw [mean.counted positive]
    field_simp

theorem Mean.move {count : ℤ} {sum average : ℚ}
    (mean : Mean count sum average) (nonneg : 0 ≤ count)
    (more : ℤ) (delta : ℚ) (empty : count + more = 0 → sum + delta = 0) :
    Mean (count + more) (sum + delta)
      (if 0 < count + more then
        (average * count + delta) / ((count + more : ℤ) : ℚ)
      else 0) where
  counted positive := by
    rw [if_pos positive, mean.sum_eq nonneg]
  empty zero := by
    rw [if_neg (by omega)]
    exact ⟨rfl, empty zero⟩

end Lalaba.Foundation
