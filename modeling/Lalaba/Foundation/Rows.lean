import Mathlib.Data.List.AList

/-!
# Counting the rows of a finite map

A finite map holds at most one row under a key, so a count over its rows is the
count over the others and one more if the row of that key is counted.  What a
write to one key does to a count is what it does to this one row.
-/

namespace Lalaba.Foundation

variable {Key Row : Type} [DecidableEq Key]

def countRows (counts : Row → Bool)
    (rows : AList fun _ : Key => Row) : ℕ :=
  rows.entries.countP fun entry => counts entry.2

def countOthers (key : Key) (counts : Row → Bool)
    (rows : AList fun _ : Key => Row) : ℕ :=
  rows.entries.countP fun entry => entry.1 != key && counts entry.2

theorem countP_add_countP_only {Entry : Type} (first second : Entry → Bool)
    (entries : List Entry) :
    entries.countP first +
        entries.countP (fun entry => second entry && !first entry) =
      entries.countP second + entries.countP (fun entry => first entry && !second entry) := by
  induction entries with
  | nil => rfl
  | cons entry rest induction =>
    simp only [List.countP_cons]
    cases first entry <;> cases second entry <;> simp <;> omega

section

variable {first second : AList fun _ : Key => Row} {counts : (_ : Key) × Row → Bool}

theorem countP_le_of_lookup
    (covers : ∀ key row, first.lookup key = some row → counts ⟨key, row⟩ = true →
        ∃ other, second.lookup key = some other ∧ counts ⟨key, other⟩ = true) :
    first.entries.countP counts ≤ second.entries.countP counts := by
  have distinct : ((first.entries.filter counts).map Sigma.fst).Nodup :=
    List.filter_sublist.map Sigma.fst |>.nodup first.keys_nodup
  have within : (first.entries.filter counts).map Sigma.fst ⊆
      (second.entries.filter counts).map Sigma.fst := by
    intro key member
    rcases List.mem_map.mp member with ⟨⟨key, row⟩, counted, rfl⟩
    rcases List.mem_filter.mp counted with ⟨stored, counted⟩
    rcases covers key row (AList.mem_lookup_iff.mpr stored) counted with ⟨other, found, counted'⟩
    have member' : ⟨key, other⟩ ∈ second.entries.filter counts :=
      List.mem_filter.mpr ⟨AList.mem_lookup_iff.mp found, counted'⟩
    exact List.mem_map.mpr ⟨_, member', rfl⟩
  have shorter := (List.subperm_of_subset distinct within).length_le
  simpa [List.countP_eq_length_filter] using shorter

theorem countP_key {entries : List ((_ : Key) × Row)}
    (distinct : entries.NodupKeys) (key : Key) (counts : Row → Bool) :
    (entries.countP fun entry => entry.1 == key && counts entry.2) =
      if (entries.dlookup key).any counts then 1 else 0 := by
  induction entries with
  | nil => rfl
  | cons entry rest induction =>
    rcases entry with ⟨other, row⟩
    rcases List.nodupKeys_cons.mp distinct with ⟨fresh, distinct⟩
    by_cases here : other = key
    · subst here
      have absent : (rest.countP fun entry =>
          entry.1 == other && counts entry.2) = 0 := by
        rw [List.countP_eq_zero]
        rintro ⟨later, stored⟩ member counted
        have same : later = other := beq_iff_eq.mp (Bool.and_eq_true_iff.mp counted).1
        subst same
        exact fresh (@List.mem_keys_of_mem _ _ ⟨later, stored⟩ rest member)
      simp [List.countP_cons, absent]
    · have skipped : (other == key) = false := by simpa using here
      rw [List.countP_cons, induction distinct, List.dlookup_cons_ne _ _ (Ne.symm here)]
      simp [skipped]

end

section

variable {rows first second : AList fun _ : Key => Row} {counts : Row → Bool} {key : Key}

theorem countRows_eq (key : Key) (counts : Row → Bool)
    (rows : AList fun _ : Key => Row) :
    countRows counts rows = countOthers key counts rows +
      if (rows.lookup key).any counts then 1 else 0 := by
  rw [AList.lookup, ← countP_key rows.nodupKeys, countRows, countOthers,
    List.countP_eq_countP_filter_add _ _ fun entry => entry.1 != key]
  congr 1
  · rw [List.countP_filter]
    apply List.countP_congr
    intro entry _
    rw [Bool.and_comm]
  · rw [List.countP_filter]
    apply List.countP_congr
    intro entry _
    simp [and_comm]

theorem countOthers_congr
    (others : ∀ other, other ≠ key → second.lookup other = first.lookup other) :
    countOthers key counts second = countOthers key counts first := by
  apply le_antisymm
  · apply countP_le_of_lookup
    intro other row found counted
    have different := bne_iff_ne.mp (Bool.and_eq_true_iff.mp counted).1
    exact ⟨row, (others other different) ▸ found, counted⟩
  · apply countP_le_of_lookup
    intro other row found counted
    have different := bne_iff_ne.mp (Bool.and_eq_true_iff.mp counted).1
    exact ⟨row, (others other different).symm ▸ found, counted⟩

end

end Lalaba.Foundation
