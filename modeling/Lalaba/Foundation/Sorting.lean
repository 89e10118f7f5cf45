import Mathlib.Data.List.Sort

/-!
# Sorted selections

Sorting by insertion keeps the order of what is equal, so a selection may be made
before the sort or after it, and two lists that agree pair by pair are sorted alike.
-/

namespace Lalaba.Foundation

variable {Row : Type} {precedes : Row → Row → Prop} [DecidableRel precedes]

theorem orderedInsert_first {row : Row} {rows : List Row}
    (first : ∀ other ∈ rows, precedes row other) :
    rows.orderedInsert precedes row = row :: rows := by
  cases rows with
  | nil => rfl
  | cons other rest =>
    exact List.orderedInsert_cons_of_le precedes rest (first other List.mem_cons_self)

section

variable {selected : Row → Bool} [IsTrans Row precedes]

theorem filter_orderedInsert {row : Row} {rows : List Row}
    (sorted : rows.Pairwise precedes) :
    (rows.orderedInsert precedes row).filter selected =
      if selected row then
        (rows.filter selected).orderedInsert precedes row
      else
        rows.filter selected := by
  induction rows with
  | nil =>
    cases chosen : selected row <;> simp [chosen]
  | cons other rest induction =>
    rcases List.pairwise_cons.mp sorted with ⟨before, sorted⟩
    by_cases first : precedes row other
    · rw [List.orderedInsert_cons_of_le precedes rest first]
      have all : ∀ kept ∈ (other :: rest).filter selected,
          precedes row kept := by
        intro kept member
        rcases List.mem_cons.mp (List.mem_filter.mp member).1 with
          rfl | later
        · exact first
        · exact trans_of precedes first (before kept later)
      rw [List.filter_cons, orderedInsert_first all]
    · rw [List.orderedInsert_of_not_le precedes rest first,
        List.filter_cons, List.filter_cons, induction sorted]
      by_cases chosen : selected other = true
      · rw [if_pos chosen, if_pos chosen]
        split
        · exact (List.orderedInsert_of_not_le precedes _ first).symm
        · rfl
      · rw [if_neg chosen, if_neg chosen]

theorem filter_insertionSort [Std.Total precedes] (rows : List Row) :
    (rows.insertionSort precedes).filter selected =
      (rows.filter selected).insertionSort precedes := by
  induction rows with
  | nil => rfl
  | cons row rest induction =>
    rw [List.insertionSort_cons, filter_orderedInsert
      (List.pairwise_insertionSort precedes rest), induction, List.filter_cons]
    split
    · exact (List.insertionSort_cons precedes row _).symm
    · rfl

end

section

variable [IsTrans Row precedes] [Std.Total precedes]

theorem first_of_insertionSort {rows rest : List Row} {first : Row}
    (sorted : rows.insertionSort precedes = first :: rest) :
    first ∈ rows ∧ ∀ row ∈ rows, row = first ∨ precedes first row := by
  have same := List.perm_insertionSort precedes rows
  have order := List.pairwise_insertionSort precedes rows
  rw [sorted] at same order
  refine ⟨same.mem_iff.mp (.head _), ?_⟩
  intro row member
  rcases List.mem_cons.mp (same.mem_iff.mpr member) with here | later
  · exact .inl here
  · exact .inr ((List.pairwise_cons.mp order).1 row later)

theorem insertionSort_eq_of_perm {rows rows' : List Row}
    (distinct : ∀ first ∈ rows, ∀ second ∈ rows,
      precedes first second → precedes second first → first = second)
    (same : rows.Perm rows') :
    rows.insertionSort precedes = rows'.insertionSort precedes := by
  have first := List.perm_insertionSort precedes rows
  have second := List.perm_insertionSort precedes rows'
  refine List.Perm.eq_of_pairwise ?_
    (List.pairwise_insertionSort precedes rows)
    (List.pairwise_insertionSort precedes rows')
    ((first.trans same).trans second.symm)
  intro row other member member'
  exact distinct row (first.mem_iff.mp member) other (same.mem_iff.mpr (second.mem_iff.mp member'))

end

section

variable {Row' : Type} {precedes' : Row' → Row' → Prop}
  [DecidableRel precedes'] {alike : Row → Row' → Prop}

theorem forall₂_orderedInsert
    (agree : ∀ first second first' second', alike first first' → alike second second' →
      (precedes first second ↔ precedes' first' second'))
    {row : Row} {row' : Row'} {rows : List Row} {rows' : List Row'}
    (same : alike row row') (pairs : List.Forall₂ alike rows rows') :
    List.Forall₂ alike (rows.orderedInsert precedes row) (rows'.orderedInsert precedes' row') := by
  induction pairs with
  | nil => exact .cons same .nil
  | @cons other other' rest rest' head tail induction =>
    by_cases first : precedes row other
    · have first' := (agree _ _ _ _ same head).mp first
      rw [List.orderedInsert_cons_of_le precedes rest first,
        List.orderedInsert_cons_of_le precedes' rest' first']
      exact .cons same (.cons head tail)
    · have first' : ¬ precedes' row' other' :=
        fun holds => first ((agree _ _ _ _ same head).mpr holds)
      rw [List.orderedInsert_of_not_le precedes rest first,
        List.orderedInsert_of_not_le precedes' rest' first']
      exact .cons head induction

theorem forall₂_insertionSort
    (agree : ∀ first second first' second', alike first first' → alike second second' →
      (precedes first second ↔ precedes' first' second'))
    {rows : List Row} {rows' : List Row'}
    (pairs : List.Forall₂ alike rows rows') :
    List.Forall₂ alike (rows.insertionSort precedes) (rows'.insertionSort precedes') := by
  induction pairs with
  | nil => exact .nil
  | cons head tail induction =>
    rw [List.insertionSort_cons, List.insertionSort_cons]
    exact forall₂_orderedInsert agree head induction

end

end Lalaba.Foundation
