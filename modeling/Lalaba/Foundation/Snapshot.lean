import Mathlib.Data.List.AList

/-!
# Transactions on snapshots

A transaction reads the rows as they were when it began and writes to a view of its
own.  It commits when no row that it has written was written by another since: the
rows it has written replace those that are stored, and all others stay as they are.
Nothing protects what it has only read.
-/

namespace Lalaba.Foundation.Snapshot

variable {Key Row : Type} [DecidableEq Key]

def mapRows (change : Key → Row → Row)
    (rows : AList fun _ : Key => Row) : AList fun _ : Key => Row :=
  ⟨rows.entries.map (Sigma.map id change), List.NodupKeys.map₂ change _ rows.nodupKeys⟩

theorem lookup_mapRows {change : Key → Row → Row}
    {rows : AList fun _ : Key => Row} {key : Key} :
    (mapRows change rows).lookup key = (rows.lookup key).map (change key) :=
  List.dlookup_map₂ key

theorem mapRows_mapRows {first second : Key → Row → Row}
    {rows : AList fun _ : Key => Row} :
    mapRows second (mapRows first rows) =
      mapRows (fun key row => second key (first key row)) rows := by
  apply AList.ext
  rw [mapRows, mapRows, mapRows]
  exact List.map_map

variable [DecidableEq Row]

def written (snapshot view : AList fun _ : Key => Row) :
    AList fun _ : Key => Row :=
  ⟨view.entries.filter fun entry =>
      snapshot.lookup entry.1 != some entry.2,
    (List.filter_sublist.map Sigma.fst).nodup view.nodupKeys⟩

def conflicts (snapshot view rows : AList fun _ : Key => Row) : Bool :=
  (written snapshot view).entries.any fun entry =>
    rows.lookup entry.1 != snapshot.lookup entry.1

/-- The rows after a commit; `none` when there is a conflict. -/
def commit (snapshot view rows : AList fun _ : Key => Row) :
    Option (AList fun _ : Key => Row) :=
  if conflicts snapshot view rows then none
  else some (written snapshot view ∪ rows)

variable {snapshot view rows after : AList fun _ : Key => Row} {key : Key}

variable {row : Row}

theorem mem_written :
    (written snapshot view).lookup key = some row ↔
      view.lookup key = some row ∧ snapshot.lookup key ≠ some row := by
  rw [← Option.mem_def, AList.mem_lookup_iff, written, List.mem_filter,
    ← AList.mem_lookup_iff, Option.mem_def, bne_iff_ne]

/-- What a commit does under one key. -/
inductive Committed (snapshot view rows after : AList fun _ : Key => Row) (key : Key) : Prop where
  | untouched
      (same : view.lookup key = snapshot.lookup key ∨ view.lookup key = none)
      (kept : after.lookup key = rows.lookup key)
  | written (row : Row) (view : view.lookup key = some row)
      (changed : snapshot.lookup key ≠ some row)
      (unchallenged : rows.lookup key = snapshot.lookup key)
      (stored : after.lookup key = some row)

theorem committed (commits : commit snapshot view rows = some after)
    (key : Key) : Committed snapshot view rows after key := by
  rw [commit] at commits
  split at commits
  · cases commits
  · rename_i quiet
    cases commits
    cases found : (written snapshot view).lookup key with
    | some row =>
      rcases mem_written.mp found with ⟨mine, changed⟩
      refine .written row mine changed ?_ ?_
      · by_contra challenged
        apply quiet
        rw [conflicts, List.any_eq_true]
        exact ⟨⟨key, row⟩, AList.mem_lookup_iff.mp found, bne_iff_ne.mpr challenged⟩
      · rw [AList.lookup_union_left, found]
        exact AList.lookup_isSome.mp (found ▸ rfl)
    | none =>
      refine .untouched ?_ ?_
      · cases mine : view.lookup key with
        | none => exact .inr rfl
        | some row =>
          left
          by_contra changed
          have stored := mem_written.mpr ⟨mine, Ne.symm changed⟩
          rw [found] at stored
          cases stored
      · exact AList.lookup_union_right (AList.lookup_eq_none.mp found)

theorem committed_change {change : Row → Row}
    (commits : commit snapshot view rows = some after)
    (changes : view.lookup key = (snapshot.lookup key).map change)
    (stored : rows.lookup key = some row) :
    after.lookup key = some row ∧
        (snapshot.lookup key).map change = snapshot.lookup key ∨
      snapshot.lookup key = some row ∧ after.lookup key = some (change row) := by
  cases committed commits key with
  | untouched same kept =>
    left
    rw [changes] at same
    refine ⟨kept.trans stored, ?_⟩
    rcases same with same | absent
    · exact same
    · rw [absent]
      exact (Option.map_eq_none_iff.mp absent).symm
  | written other mine changed unchallenged stored' =>
    right
    rw [changes, ← unchallenged, stored] at mine
    cases mine
    exact ⟨unchallenged.symm.trans stored, stored'⟩

theorem lookup_of_committed_change {change : Row → Row}
    (commits : commit snapshot view rows = some after)
    (changes : view.lookup key = (snapshot.lookup key).map change)
    (stored : after.lookup key = some row) :
    ∃ before, rows.lookup key = some before := by
  cases committed commits key with
  | untouched _ kept => exact ⟨row, kept.symm.trans stored⟩
  | written other mine _ unchallenged _ =>
    rw [changes] at mine
    rcases Option.map_eq_some_iff.mp mine with ⟨before, found, _⟩
    exact ⟨before, unchallenged.trans found⟩

theorem committed_new (commits : commit snapshot view rows = some after)
    (fresh : snapshot.lookup key = none) (adds : view.lookup key = some row) :
    after.lookup key = some row := by
  cases committed commits key with
  | untouched same _ =>
    rw [fresh, or_self, adds] at same
    cases same
  | written other mine _ _ stored =>
    cases adds.symm.trans mine
    exact stored

end Lalaba.Foundation.Snapshot
