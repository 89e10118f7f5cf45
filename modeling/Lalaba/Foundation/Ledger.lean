import Mathlib.Algebra.BigOperators.Group.List.Basic
import Mathlib.Algebra.Group.Basic

/-!
# Append-only ledgers with running balances

A ledger is a list of rows in the order they were committed.  Each row belongs
to one account, carries a signed amount, and records the balance of its account
just after it.  The total of an account is the sum of its rows; a ledger is
*running* when every recorded balance is the total up to and including its row.
-/

namespace Lalaba.Foundation.Ledger

variable {Row Account Amount : Type} [DecidableEq Account]

section

variable [AddCommGroup Amount]

def total (account : Row → Account) (amount : Row → Amount)
    (owner : Account) (rows : List Row) : Amount :=
  ((rows.filter (fun row => account row = owner)).map amount).sum

variable {account : Row → Account} {amount : Row → Amount}

@[simp]
theorem total_nil (owner : Account) :
    total account amount owner [] = 0 :=
  rfl

theorem total_append (owner : Account) (first second : List Row) :
    total account amount owner (first ++ second) =
      total account amount owner first +
        total account amount owner second := by
  simp [total]

theorem total_singleton (owner : Account) (row : Row) :
    total account amount owner [row] =
      if account row = owner then amount row else 0 := by
  by_cases same : account row = owner <;> simp [total, same]

theorem total_eq_zero (owner : Account) (rows : List Row)
    (foreign : ∀ row ∈ rows, account row ≠ owner) :
    total account amount owner rows = 0 := by
  have empty : rows.filter (fun row => account row = owner) = [] := by
    apply List.filter_eq_nil_iff.mpr
    intro row member
    simpa using foreign row member
  simp [total, empty]

end

section

variable [AddCommGroup Amount] (account : Row → Account) (amount after : Row → Amount)

/--
Every row records the total of its account over the rows committed up to and
including it.
-/
def Running (rows : List Row) : Prop :=
  ∀ earlier row later, rows = earlier ++ row :: later →
    after row = total account amount (account row) (earlier ++ [row])

variable {account amount after}

theorem Running.nil : Running account amount after [] := by
  intro earlier row later split
  simp at split

/--
Appending a row that records the old total plus its own amount keeps a ledger
running: the rows before it still see the same prefix.
-/
theorem Running.append {rows : List Row}
    (running : Running account amount after rows) (row : Row)
    (recorded : after row = total account amount (account row) rows + amount row) :
    Running account amount after (rows ++ [row]) := by
  intro earlier entry later split
  rcases List.eq_nil_or_concat later with rfl | ⟨front, last, rfl⟩
  · -- The split is at the new row.
    have ends := List.append_inj' split rfl
    obtain ⟨rfl, same⟩ := ends
    cases same
    rw [recorded, total_append, total_singleton, if_pos rfl]
  · -- The split is inside the old ledger.
    have shape : rows ++ [row] = (earlier ++ entry :: front) ++ [last] := by
      simpa using split
    have ends := List.append_inj' shape rfl
    exact running earlier entry front ends.1

end

end Lalaba.Foundation.Ledger
