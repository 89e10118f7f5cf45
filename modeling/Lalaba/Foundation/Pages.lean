import Mathlib.Data.List.Basic
import Mathlib.Data.List.Nodup

/-!
# Pages of ranked rows

Rows that are sorted by a rank are made of one block for each rank.  A page cuts a
window out of every block, and two lists that are sorted by the same rank are one list
if their blocks are.
-/

namespace Lalaba.Foundation

variable {Row : Type}

def page (offset limit : ℕ) (rows : List Row) : List Row := (rows.drop offset).take limit

section

variable {rows : List Row} {offset offset' limit limit' : ℕ}

theorem page_sublist : (page offset limit rows).Sublist rows :=
  (List.take_sublist _ _).trans (List.drop_sublist _ _)

theorem length_page : (page offset limit rows).length = min limit (rows.length - offset) := by
  rw [page, List.length_take, List.length_drop]

theorem page_of_append {first second : List Row} :
    page offset limit (first ++ second) =
      page offset limit first ++
        page (offset - first.length) (limit - (first.length - offset))
          second := by
  rw [page, page, page, List.drop_append, List.take_append, List.length_drop]

theorem page_eq_iff (distinct : rows.Nodup) :
    page offset limit rows = page offset' limit' rows ↔
      min limit (rows.length - offset) =
          min limit' (rows.length - offset') ∧
        (min limit (rows.length - offset) = 0 ∨ offset = offset') := by
  constructor
  · intro same
    have length : min limit (rows.length - offset) = min limit' (rows.length - offset') := by
      rw [← length_page, ← length_page, same]
    refine ⟨length, ?_⟩
    by_contra shown
    rcases not_or.mp shown with ⟨shown, apart⟩
    have within : offset < rows.length ∧ offset' < rows.length ∧ 0 < limit ∧ 0 < limit' := by
      omega
    have first : (page offset limit rows)[0]? = rows[offset]? := by
      rw [page, List.getElem?_take_of_lt within.2.2.1, List.getElem?_drop, Nat.add_zero]
    have first' : (page offset' limit' rows)[0]? = rows[offset']? := by
      rw [page, List.getElem?_take_of_lt within.2.2.2, List.getElem?_drop, Nat.add_zero]
    rw [same, first', List.getElem?_eq_getElem within.1,
      List.getElem?_eq_getElem within.2.1, Option.some.injEq] at first
    exact apart ((distinct.getElem_inj_iff).mp first).symm
  · rintro ⟨length, none | rfl⟩
    · rw [List.eq_nil_of_length_eq_zero (length_page.trans none),
        List.eq_nil_of_length_eq_zero (length_page.trans (length.symm.trans none))]
    · rw [page, page, List.take_eq_take_iff, List.length_drop]
      omega

end

section

variable {rank : Row → ℕ} {rows rows' : List Row} {index offset limit : ℕ}

def block (rank : Row → ℕ) (index : ℕ) (rows : List Row) : List Row :=
  rows.filter fun row => rank row == index

def before (rank : Row → ℕ) (index : ℕ) (rows : List Row) : ℕ :=
  rows.countP fun row => rank row < index

theorem split_of_sorted
    (sorted : rows.Pairwise fun first second => rank first ≤ rank second)
    (index : ℕ) :
    rows = (rows.filter fun row => rank row < index) ++
      rows.filter fun row => index ≤ rank row := by
  induction rows with
  | nil => rfl
  | cons row rest induction =>
    rcases List.pairwise_cons.mp sorted with ⟨first, sorted⟩
    by_cases low : rank row < index
    · rw [List.filter_cons_of_pos (by simpa using low),
        List.filter_cons_of_neg (by simpa using low), List.cons_append,
        ← induction sorted]
    · have none : (row :: rest).filter (fun row => rank row < index) = [] := by
        apply List.filter_eq_nil_iff.mpr
        intro other member
        rcases List.mem_cons.mp member with rfl | later
        · simpa using low
        · have least := first other later
          simp
          omega
      have all : (row :: rest).filter (fun row => index ≤ rank row) = row :: rest := by
        apply List.filter_eq_self.mpr
        intro other member
        rcases List.mem_cons.mp member with rfl | later
        · simpa using low
        · have least := first other later
          simp
          omega
      rw [none, all]
      rfl

theorem blocks_of_sorted
    (sorted : rows.Pairwise fun first second => rank first ≤ rank second)
    (index : ℕ) :
    rows = (rows.filter fun row => rank row < index) ++
      (block rank index rows ++ rows.filter fun row => index < rank row) := by
  have upper : (rows.filter fun row => index ≤ rank row) =
      block rank index rows ++ rows.filter fun row => index < rank row := by
    have split := split_of_sorted (sorted.filter fun row =>
      decide (index ≤ rank row)) (index + 1)
    rw [List.filter_filter, List.filter_filter] at split
    rw [split, block]
    congr 1 <;>
    · apply List.filter_congr
      intro row _
      grind
  rw [← upper]
  exact split_of_sorted sorted index

/-- A page cuts a window out of a block. -/
theorem block_page
    (sorted : rows.Pairwise fun first second => rank first ≤ rank second) :
    block rank index (page offset limit rows) =
      page (offset - before rank index rows)
        (limit - (before rank index rows - offset))
        (block rank index rows) := by
  have length : (rows.filter fun row => rank row < index).length =
      before rank index rows :=
    List.countP_eq_length_filter.symm
  have low (offset limit : ℕ) :
      block rank index (page offset limit (rows.filter fun row => rank row < index)) = [] := by
    apply List.filter_eq_nil_iff.mpr
    intro row member
    have below := (List.mem_filter.mp (page_sublist.subset member)).2
    simp at below ⊢
    omega
  have high (offset limit : ℕ) :
      block rank index (page offset limit (rows.filter fun row => index < rank row)) = [] := by
    apply List.filter_eq_nil_iff.mpr
    intro row member
    have above := (List.mem_filter.mp (page_sublist.subset member)).2
    simp at above ⊢
    omega
  have own (offset limit : ℕ) :
      block rank index (page offset limit (block rank index rows)) =
        page offset limit (block rank index rows) := by
    apply List.filter_eq_self.mpr
    intro row member
    exact (List.mem_filter.mp (page_sublist.subset member)).2
  have split : block rank index (page offset limit rows) =
      block rank index
        (page offset limit ((rows.filter fun row => rank row < index) ++
          (block rank index rows ++ rows.filter fun row => index < rank row))) :=
    congrArg (fun rows => block rank index (page offset limit rows)) (blocks_of_sorted sorted index)
  have appended (first second : List Row) :
      block rank index (first ++ second) = block rank index first ++ block rank index second :=
    List.filter_append _ _
  rw [split, page_of_append, page_of_append, appended, appended, low, high,
    own, List.append_nil, List.nil_append, length]

/-- Two lists with the same blocks are one. -/
theorem eq_of_blocks
    (sorted : rows.Pairwise fun first second => rank first ≤ rank second)
    (sorted' : rows'.Pairwise fun first second => rank first ≤ rank second)
    (same : ∀ index, block rank index rows = block rank index rows') :
    rows = rows' := by
  have lower (count : ℕ) :
      (rows.filter fun row => rank row < count) = rows'.filter fun row => rank row < count := by
    induction count with
    | zero => simp
    | succ count induction =>
      have split {rows : List Row} (sorted : rows.Pairwise
          fun first second => rank first ≤ rank second) :
          (rows.filter fun row => rank row < count + 1) =
            (rows.filter fun row => rank row < count) ++
              block rank count rows := by
        have parts := split_of_sorted (sorted.filter fun row =>
          decide (rank row < count + 1)) count
        rw [List.filter_filter, List.filter_filter] at parts
        rw [parts, block]
        congr 1 <;>
        · apply List.filter_congr
          intro row _
          grind
      rw [split sorted, split sorted', induction, same]
  have all (rows : List Row) (most : ℕ)
      (bounded : ∀ row ∈ rows, rank row ≤ most) :
      (rows.filter fun row => rank row < most + 1) = rows := by
    apply List.filter_eq_self.mpr
    intro row member
    have least := bounded row member
    simp
    omega
  have bound (rows : List Row) : ∃ most, ∀ row ∈ rows, rank row ≤ most := by
    induction rows with
    | nil => exact ⟨0, by simp⟩
    | cons row rest induction =>
      rcases induction with ⟨most, bounded⟩
      refine ⟨max (rank row) most, ?_⟩
      intro other member
      rcases List.mem_cons.mp member with rfl | later
      · exact Nat.le_max_left _ _
      · exact Nat.le_trans (bounded other later) (Nat.le_max_right _ _)
  rcases bound (rows ++ rows') with ⟨most, bounded⟩
  rw [← all rows most fun row member =>
      bounded row (List.mem_append_left _ member),
    lower, all rows' most fun row member =>
      bounded row (List.mem_append_right _ member)]

end

end Lalaba.Foundation
