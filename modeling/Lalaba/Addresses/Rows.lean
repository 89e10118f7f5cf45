import Lalaba.Addresses.Service

/-!
# What a commit does to an address book

The unique index sees to it that no customer has two active defaults.  That there is
one, that no archived address is the default and that the address book is not overfull
depends on what is committed: a save, a deletion or a creation.
-/

namespace Lalaba.Addresses

open Foundation
open Foundation.Snapshot (mapRows)

def isDefaultOf (uid : Uid) (row : Address) : Bool := isActive uid row && row.isDefault

def Single (rows : Addresses) : Prop :=
  ∀ uid first second row other, rows.lookup first = some row →
    rows.lookup second = some other → isDefaultOf uid row = true →
    isDefaultOf uid other = true → first = second

/-- What the operations see to. -/
structure Proper (uid : Uid) (rows : Addresses) : Prop where
  archived : ∀ id row, rows.lookup id = some row → row.uid = uid →
    row.isArchived = true → row.isDefault = false
  covered : ∀ id row, rows.lookup id = some row →
    isActive uid row = true →
      ∃ other default, rows.lookup other = some default ∧ isDefaultOf uid default = true
  bounded : activeCount uid rows ≤ MAX_ADDRESSES_PER_CUSTOMER

/--
A customer with an active address has exactly one default, no archived address is the
default, and there are no more addresses than allowed.
-/
structure OneDefault (uid : Uid) (rows : Addresses) : Prop where
  default : (∃ id row, rows.lookup id = some row ∧ isActive uid row = true) →
    ∃! id, ∃ row, rows.lookup id = some row ∧ isActive uid row = true ∧ row.isDefault = true
  archived : ∀ id row, rows.lookup id = some row → row.uid = uid →
    row.isArchived = true → row.isDefault = false
  bounded : activeCount uid rows ≤ MAX_ADDRESSES_PER_CUSTOMER

section

variable {uid : Uid} {rows : Addresses} {row : Address}

theorem isActive_iff : isActive uid row = true ↔ row.uid = uid ∧ row.isArchived = false := by
  rw [isActive, Bool.and_eq_true, beq_iff_eq, Bool.not_eq_true']

theorem isDefaultOf_iff :
    isDefaultOf uid row = true ↔ isActive uid row = true ∧ row.isDefault = true := by
  rw [isDefaultOf, Bool.and_eq_true]

theorem Proper.oneDefault (proper : Proper uid rows)
    (single : Single rows) : OneDefault uid rows where
  default := by
    rintro ⟨id, row, found, active⟩
    rcases proper.covered id row found active with ⟨other, default, stored, defaults⟩
    refine ⟨other, ⟨default, stored, isDefaultOf_iff.mp defaults⟩, ?_⟩
    rintro third ⟨row', found', facts⟩
    exact single uid third other row' default found' stored (isDefaultOf_iff.mpr facts) defaults
  archived := proper.archived
  bounded := proper.bounded

theorem single_of_violates (kept : violates rows = false) :
    Single rows := by
  intro uid first second row other found found' defaults defaults'
  by_contra different
  rw [← Bool.not_eq_true] at kept
  apply kept
  rcases isDefaultOf_iff.mp defaults with ⟨active, isDefault⟩
  rcases isDefaultOf_iff.mp defaults' with ⟨active', isDefault'⟩
  rcases isActive_iff.mp active with ⟨own, kept⟩
  rcases isActive_iff.mp active' with ⟨own', kept'⟩
  refine List.any_eq_true.mpr
    ⟨⟨first, row⟩, AList.mem_lookup_iff.mp found,
      List.any_eq_true.mpr ⟨⟨second, other⟩, AList.mem_lookup_iff.mp found', ?_⟩⟩
  simp [clash, different, own, own', isDefault, isDefault', kept, kept']

end

section

variable {uid : Uid} {snapshot rows after : Addresses}
  {change : ObjectId → Address → Address}
  {id : ObjectId} {row : Address}

/-- A change that gives no address away and brings none back. -/
structure Fair (change : ObjectId → Address → Address) : Prop where
  uid : ∀ id row, (change id row).uid = row.uid
  archived : ∀ id row, (change id row).isArchived = false → row.isArchived = false

theorem Fair.isActive (fair : Fair change)
    (active : isActive uid (change id row) = true) :
    isActive uid row = true := by
  rcases isActive_iff.mp active with ⟨own, kept⟩
  exact isActive_iff.mpr ⟨(fair.uid id row).symm.trans own, fair.archived id row kept⟩

theorem Fair.active_before (fair : Fair change)
    (commits : Snapshot.commit snapshot (mapRows change snapshot) rows = some after)
    (found : after.lookup id = some row)
    (active : Addresses.isActive uid row = true) :
    ∃ before, rows.lookup id = some before ∧ Addresses.isActive uid before = true := by
  rcases Snapshot.lookup_of_committed_change commits Snapshot.lookup_mapRows found with
    ⟨before, stored⟩
  refine ⟨before, stored, ?_⟩
  rcases Snapshot.committed_change commits Snapshot.lookup_mapRows stored with
    ⟨kept, _⟩ | ⟨_, written⟩
  · cases found.symm.trans kept
    exact active
  · cases found.symm.trans written
    exact fair.isActive active

theorem Fair.bounded (fair : Fair change)
    (commits : Snapshot.commit snapshot (mapRows change snapshot) rows = some after) :
    activeCount uid after ≤ activeCount uid rows := by
  apply countP_le_of_lookup
  intro id row found active
  exact fair.active_before commits found active

/--
A change that keeps addresses as they are where it does not make them the default,
or makes up for the default it takes.
-/
theorem Fair.proper (fair : Fair change) (proper : Proper uid rows)
    (commits : Snapshot.commit snapshot (mapRows change snapshot) rows = some after)
    (archived : ∀ id row, rows.lookup id = some row → row.uid = uid →
      snapshot.lookup id = some row →
      (change id row).isArchived = true → (change id row).isDefault = false)
    (covered : ∀ id row, rows.lookup id = some row →
      snapshot.lookup id = some row → isDefaultOf uid row = true →
      isDefaultOf uid (change id row) = false →
      (∃ id row, after.lookup id = some row ∧ Addresses.isActive uid row = true) →
      ∃ other default, after.lookup other = some default ∧ isDefaultOf uid default = true) :
    Proper uid after where
  archived := by
    intro id row found own archives
    rcases Snapshot.lookup_of_committed_change commits Snapshot.lookup_mapRows found with
      ⟨before, stored⟩
    rcases Snapshot.committed_change commits Snapshot.lookup_mapRows stored with
      ⟨kept, _⟩ | ⟨seen, written⟩
    · cases found.symm.trans kept
      exact proper.archived id row stored own archives
    · cases found.symm.trans written
      rw [fair.uid] at own
      exact archived id before stored own seen archives
  covered := by
    intro id row found active
    rcases fair.active_before commits found active with ⟨before, stored, active'⟩
    rcases proper.covered id before stored active' with ⟨other, default, stored', defaults⟩
    rcases Snapshot.committed_change commits Snapshot.lookup_mapRows stored' with
      ⟨kept, _⟩ | ⟨seen, written⟩
    · exact ⟨other, default, kept, defaults⟩
    · cases keeps : isDefaultOf uid (change other default) with
      | true => exact ⟨other, _, written, keeps⟩
      | false =>
        exact covered other default stored' seen defaults keeps ⟨id, row, found, active⟩
  bounded := (fair.bounded commits).trans proper.bounded

theorem Fair.proper_of_apart (fair : Fair change)
    (proper : Proper uid rows)
    (commits : Snapshot.commit snapshot (mapRows change snapshot) rows = some after)
    (apart : ∀ id row, snapshot.lookup id = some row → row.uid = uid → change id row = row) :
    Proper uid after := by
  apply fair.proper proper commits
  · intro id row stored own seen archives
    rw [apart id row seen own] at archives ⊢
    exact proper.archived id row stored own archives
  · intro id row stored seen defaults lost
    have own := (isActive_iff.mp (isDefaultOf_iff.mp defaults).1).1
    rw [apart id row seen own, defaults] at lost
    cases lost

end

/-! ## Saving a document -/

section

variable {uid owner : Uid} {snapshot rows after : Addresses}
  {id : ObjectId} {row : Address} {document : Document} {clears : Bool}

theorem cleared_uid : (row.cleared owner).uid = row.uid := by
  rw [Address.cleared]
  split <;> rfl

theorem cleared_isArchived : (row.cleared owner).isArchived = row.isArchived := by
  rw [Address.cleared]
  split <;> rfl

theorem cleared_of_ne (different : row.uid ≠ owner) :
    row.cleared owner = row :=
  if_neg fun both => different both.1

theorem cleared_of_not_default (default : row.isDefault = false) : row.cleared owner = row := by
  apply if_neg
  rintro ⟨_, isDefault⟩
  rw [default] at isDefault
  cases isDefault

def settled (clears : Bool) (owner : Uid) (document : Document)
    (id : ObjectId) (row : Address) : Address :=
  document.write id (if clears then row.cleared owner else row)

theorem base_uid : (if clears then row.cleared owner else row).uid = row.uid := by
  split
  · exact cleared_uid
  · rfl

theorem base_isArchived :
    (if clears then row.cleared owner else row).isArchived =
      row.isArchived := by
  split
  · exact cleared_isArchived
  · rfl

theorem settled_uid : (settled clears owner document id row).uid = row.uid := by
  rw [settled, Document.write]
  split <;> exact base_uid

theorem settled_isArchived (kept : document.modified.isArchived = none) :
    (settled clears owner document id row).isArchived =
      row.isArchived := by
  rw [settled, Document.write]
  split
  · rw [Modified.apply, kept]
    exact base_isArchived
  · exact base_isArchived

theorem settled_fair (kept : document.modified.isArchived = none) :
    Fair (settled clears owner document) where
  uid := fun _ _ => settled_uid
  archived := fun _ _ active => settled_isArchived kept ▸ active

theorem settled_isDefault {isDefault : Bool}
    (writes : document.modified.isDefault = some isDefault) :
    (settled clears owner document document.id row).isDefault =
      isDefault := by
  rw [settled, Document.write, if_pos rfl, Modified.apply, writes]
  rfl

theorem settled_of_ne (different : id ≠ document.id) :
    settled clears owner document id row =
      if clears then row.cleared owner else row :=
  if_neg different

def Owned (owner : Uid) (document : Document) (rows : Addresses) : Prop :=
  ∃ row, rows.lookup document.id = some row ∧ row.uid = owner

theorem settled_of_apart (owned : Owned owner document snapshot)
    (different : owner ≠ uid) (seen : snapshot.lookup id = some row)
    (own : row.uid = uid) :
    settled clears owner document id row = row := by
  have other : id ≠ document.id := by
    rintro rfl
    rcases owned with ⟨row', seen', own'⟩
    cases seen.symm.trans seen'
    exact different (own'.symm.trans own)
  rw [settled_of_ne other]
  split
  · exact cleared_of_ne fun same => different (same.symm.trans own)
  · rfl

/-- A save that makes an active address the default. -/
theorem proper_of_default (proper : Proper uid rows)
    (before : Proper uid snapshot) (single : Single snapshot)
    (commits : Snapshot.commit snapshot
      (mapRows (settled clears uid document) snapshot) rows = some after)
    (kept : document.modified.isArchived = none)
    (writes : document.modified.isDefault = some true)
    (owned : Owned uid document snapshot)
    (active : (rows.lookup document.id).any (isActive uid) = true) :
    Proper uid after := by
  rcases (Option.any_eq_true _ _).mp active with ⟨chosen, stored, active⟩
  apply (settled_fair kept).proper proper commits
  · intro id row found own seen archives
    rw [settled_isArchived kept] at archives
    by_cases here : id = document.id
    · subst here
      cases stored.symm.trans found
      rw [(isActive_iff.mp active).2] at archives
      cases archives
    · have inactive := proper.archived id row found own archives
      rw [settled_of_ne here, cleared_of_not_default inactive, ite_self]
      exact inactive
  · intro id row found seen defaults lost _
    have other : id ≠ document.id := by
      rintro rfl
      cases stored.symm.trans found
      rw [isDefaultOf, settled_isDefault writes, isActive, settled_uid,
        settled_isArchived kept, Bool.and_true] at lost
      rw [isActive] at active
      rw [active] at lost
      cases lost
    rcases Snapshot.committed_change commits Snapshot.lookup_mapRows stored with
      ⟨_, same⟩ | ⟨_, written⟩
    · rcases owned with ⟨old, seen', own⟩
      rw [seen', Option.map_some, Option.some.injEq] at same
      have isDefault : old.isDefault = true := by
        rw [← same]
        exact settled_isDefault writes
      have active' : isActive uid old = true := by
        refine isActive_iff.mpr ⟨own, ?_⟩
        by_contra archives
        have inactive := before.archived document.id old seen' own (Bool.not_eq_false _ ▸ archives)
        rw [isDefault] at inactive
        cases inactive
      exact (other (single uid id document.id row old seen seen' defaults
        (isDefaultOf_iff.mpr ⟨active', isDefault⟩))).elim
    · refine ⟨document.id, _, written, isDefaultOf_iff.mpr ⟨?_, ?_⟩⟩
      · rw [isActive, settled_uid, settled_isArchived kept]
        exact active
      · exact settled_isDefault writes

theorem proper_of_plain (proper : Proper uid rows)
    (commits : Snapshot.commit snapshot
      (mapRows (settled false uid document) snapshot) rows = some after)
    (kept : document.modified.isArchived = none)
    (writes : document.modified.isDefault ≠ some true)
    (plain : document.modified.isDefault = some false →
      (rows.lookup document.id).any (fun row => row.isDefault) = false) :
    Proper uid after := by
  have flag : ∀ id row, rows.lookup id = some row →
      (settled false uid document id row).isDefault = row.isDefault := by
    intro id row found
    by_cases here : id = document.id
    · subst here
      cases written : document.modified.isDefault with
      | none =>
        rw [settled, Document.write, if_pos rfl, Modified.apply, written]
        rfl
      | some isDefault =>
        cases isDefault with
        | true => exact (writes written).elim
        | false =>
          have none := plain written
          rw [found] at none
          rw [settled_isDefault written]
          exact none.symm
    · rw [settled_of_ne here]
      rfl
  apply (settled_fair kept).proper proper commits
  · intro id row found own seen archives
    rw [settled_isArchived kept] at archives
    rw [flag id row found]
    exact proper.archived id row found own archives
  · intro id row found seen defaults lost
    rw [isDefaultOf, isActive, settled_uid, settled_isArchived kept, flag id row found] at lost
    rw [isDefaultOf, isActive, lost] at defaults
    cases defaults

end

/-! ## Deletion -/

section

variable {uid owner : Uid} {snapshot rows after : Addresses}
  {id next : ObjectId} {row : Address} {document : Document}

theorem write_uid : (document.write id row).uid = row.uid := by
  rw [Document.write]
  split <;> rfl

theorem write_of_ne (different : id ≠ document.id) :
    document.write id row = row :=
  if_neg different

/-- A document of which a save can only archive the row. -/
structure Archiving (document : Document) : Prop where
  archived : document.modified.isArchived ≠ some false
  default : document.modified.isDefault ≠ some true

theorem Archiving.write_fair (archiving : Archiving document) : Fair document.write where
  uid := fun _ _ => write_uid
  archived := by
    intro id row active
    rw [Document.write] at active
    split at active
    · rw [Modified.apply] at active
      cases written : document.modified.isArchived with
      | none =>
        rw [written] at active
        exact active
      | some isArchived =>
        cases isArchived with
        | true =>
          rw [written] at active
          cases active
        | false => exact (archiving.archived written).elim
    · exact active

theorem Archiving.write_isDefault (archiving : Archiving document)
    (default : (document.write id row).isDefault = true) :
    row.isDefault = true := by
  rw [Document.write] at default
  split at default
  · rw [Modified.apply] at default
    cases written : document.modified.isDefault with
    | none =>
      rw [written] at default
      exact default
    | some isDefault =>
      cases isDefault with
      | true => exact (archiving.default written).elim
      | false =>
        rw [written] at default
        cases default
  · exact default

theorem promoted_uid : (row.promoted next id).uid = row.uid := by
  rw [Address.promoted]
  split <;> rfl

theorem promoted_isArchived : (row.promoted next id).isArchived = row.isArchived := by
  rw [Address.promoted]
  split <;> rfl

theorem promoted_of_ne (different : id ≠ next) :
    row.promoted next id = row :=
  if_neg different

theorem newest_spec (chosen : newest uid rows = some next) :
    ∃ row, rows.lookup next = some row ∧ isActive uid row = true := by
  rcases Option.map_eq_some_iff.mp chosen with ⟨entry, best, rfl⟩
  rcases List.mem_filter.mp (List.argmax_mem best) with ⟨member, active⟩
  exact ⟨entry.2, AList.mem_lookup_iff.mpr member, active⟩

theorem newest_none (none : newest uid rows = none)
    (found : rows.lookup id = some row) : isActive uid row = false := by
  have empty := List.argmax_eq_none.mp (Option.map_eq_none_iff.mp none)
  by_contra active
  have member : ⟨id, row⟩ ∈ rows.entries.filter fun entry =>
      isActive uid entry.2 :=
    List.mem_filter.mpr ⟨AList.mem_lookup_iff.mp found, Bool.not_eq_false _ ▸ active⟩
  rw [empty] at member
  cases member

def hasOther (uid : Uid) (id : ObjectId) (rows : Addresses) : Bool :=
  rows.entries.any fun entry => entry.1 != id && isActive uid entry.2

theorem hasOther_iff :
    hasOther uid id rows = true ↔ ∃ other row, other ≠ id ∧
      rows.lookup other = some row ∧ isActive uid row = true := by
  rw [hasOther, List.any_eq_true]
  constructor
  · rintro ⟨⟨other, row⟩, member, both⟩
    rcases Bool.and_eq_true_iff.mp both with ⟨different, active⟩
    exact ⟨other, row, bne_iff_ne.mp different, AList.mem_lookup_iff.mpr member, active⟩
  · rintro ⟨other, row, different, found, active⟩
    exact ⟨⟨other, row⟩, AList.mem_lookup_iff.mp found,
      Bool.and_eq_true_iff.mpr ⟨bne_iff_ne.mpr different, active⟩⟩

/--
A deletion that writes neither flag, or finds an address that is not the default, or
takes the default away and sees another address if there is one.
-/
structure Deletes (uid : Uid) (document : Document) (wasDefault : Bool)
    (snapshot rows : Addresses) : Prop where
  archiving : Archiving document
  owned : Owned uid document snapshot
  safe :
    document.modified.isArchived ≠ some true ∧
        document.modified.isDefault ≠ some false ∨
      (rows.lookup document.id).any (fun row => row.isDefault) = false ∨
      document.modified.isArchived = some true ∧
        document.modified.isDefault = some false ∧ wasDefault = true ∧
        (hasOther uid document.id rows = true → hasOther uid document.id snapshot = true)

variable {wasDefault : Bool}

theorem Archiving.write_same (archiving : Archiving document)
    (archives : document.modified.isArchived ≠ some true)
    (clears : document.modified.isDefault ≠ some false) :
    (document.write id row).isArchived = row.isArchived ∧
      (document.write id row).isDefault = row.isDefault := by
  rw [Document.write]
  split
  · rw [Modified.apply]
    constructor
    · cases written : document.modified.isArchived with
      | none => rfl
      | some isArchived =>
        cases isArchived with
        | true => exact (archives written).elim
        | false => exact (archiving.archived written).elim
    · cases written : document.modified.isDefault with
      | none => rfl
      | some isDefault =>
        cases isDefault with
        | true => exact (archiving.default written).elim
        | false => exact (clears written).elim
  · exact ⟨rfl, rfl⟩

theorem Deletes.archived
    (deletes : Deletes uid document wasDefault snapshot rows)
    (proper : Proper uid rows) (found : rows.lookup id = some row)
    (own : row.uid = uid)
    (archives : (document.write id row).isArchived = true) :
    (document.write id row).isDefault = false := by
  by_contra default
  have default' := deletes.archiving.write_isDefault (Bool.not_eq_false _ ▸ default)
  have kept : row.isArchived = false := by
    by_contra old
    have inactive := proper.archived id row found own (Bool.not_eq_false _ ▸ old)
    rw [default'] at inactive
    cases inactive
  have here : id = document.id := by
    by_contra different
    rw [write_of_ne different, kept] at archives
    cases archives
  subst here
  rcases deletes.safe with ⟨archives', clears⟩ | unset | ⟨_, clears, _⟩
  · rw [(deletes.archiving.write_same archives' clears).1, kept] at archives
    cases archives
  · rw [found, Option.any_some, default'] at unset
    cases unset
  · rw [Document.write, if_pos rfl, Modified.apply, clears] at default
    exact default rfl

theorem Deletes.lost
    (deletes : Deletes uid document wasDefault snapshot rows)
    (found : rows.lookup id = some row)
    (default : isDefaultOf uid row = true)
    (lost : isDefaultOf uid (document.write id row) = false) :
    id = document.id ∧ document.modified.isArchived = some true ∧
      wasDefault = true ∧
      (hasOther uid document.id rows = true → hasOther uid document.id snapshot = true) := by
  have here : id = document.id := by
    by_contra different
    rw [write_of_ne different, default] at lost
    cases lost
  subst here
  refine ⟨rfl, ?_⟩
  rcases deletes.safe with ⟨archives, clears⟩ | unset | ⟨archives, _, read, others⟩
  · have same := @Archiving.write_same document.id row document deletes.archiving archives clears
    rw [isDefaultOf, isActive, write_uid, same.1, same.2] at lost
    rw [isDefaultOf, isActive, lost] at default
    cases default
  · rw [found, Option.any_some, (isDefaultOf_iff.mp default).2] at unset
    cases unset
  · exact ⟨archives, read, others⟩

/-- A deletion that has no address to promote. -/
theorem Deletes.proper_of_none
    (deletes : Deletes uid document wasDefault snapshot rows)
    (proper : Proper uid rows)
    (commits : Snapshot.commit snapshot (save document snapshot) rows = some after)
    (none : wasDefault = true → newest uid (save document snapshot) = none) :
    Proper uid after := by
  apply deletes.archiving.write_fair.proper proper commits
  · intro id row found own _ archives
    exact deletes.archived proper found own archives
  · intro id row found seen default lost active
    rcases deletes.lost found default lost with ⟨rfl, archives, read, others⟩
    rcases active with ⟨other, row', found', active⟩
    rcases Snapshot.lookup_of_committed_change commits Snapshot.lookup_mapRows found' with
      ⟨before, stored⟩
    have different : other ≠ document.id := by
      rintro rfl
      cases found.symm.trans stored
      rcases Snapshot.committed_change commits Snapshot.lookup_mapRows stored with
        ⟨_, same⟩ | ⟨_, written⟩
      · rw [seen, Option.map_some, Option.some.injEq] at same
        rw [same, default] at lost
        cases lost
      · cases found'.symm.trans written
        have gone : (document.write document.id row).isArchived = true := by
          rw [Document.write, if_pos rfl, Modified.apply, archives]
          rfl
        rw [(isActive_iff.mp active).2] at gone
        cases gone
    have active' : isActive uid before = true := by
      rcases Snapshot.committed_change commits Snapshot.lookup_mapRows stored with
        ⟨kept, _⟩ | ⟨_, written⟩
      · cases found'.symm.trans kept
        exact active
      · cases found'.symm.trans written
        exact deletes.archiving.write_fair.isActive active
    rcases hasOther_iff.mp (others (hasOther_iff.mpr
        ⟨other, before, different, stored, active'⟩)) with
      ⟨third, row'', different', seen'', active''⟩
    have view : (save document snapshot).lookup third = some row'' := by
      rw [save, Snapshot.lookup_mapRows, seen'', Option.map_some, write_of_ne different']
    rw [newest_none (none read) view] at active''
    cases active''

/-- A deletion that makes another address the default. -/
theorem Deletes.proper_of_some
    (deletes : Deletes uid document wasDefault snapshot rows)
    (proper : Proper uid rows) (single : Single snapshot)
    (chosen : newest uid (save document snapshot) = some next)
    (commits : Snapshot.commit snapshot (promote next (save document snapshot)) rows = some after) :
    Proper uid after := by
  have archiving := deletes.archiving
  rw [promote, save, Snapshot.mapRows_mapRows] at commits
  rcases newest_spec chosen with ⟨promoted, view, active⟩
  rw [save, Snapshot.lookup_mapRows] at view
  rcases Option.map_eq_some_iff.mp view with ⟨old, seen, rfl⟩
  have fair : Fair fun id row => (document.write id row).promoted next id :=
    { uid := fun id row => promoted_uid.trans write_uid
      archived := fun id row kept =>
        archiving.write_fair.archived id row (promoted_isArchived ▸ kept) }
  have chosen' : isDefaultOf uid ((document.write next old).promoted next next) = true := by
    rw [Address.promoted, if_pos rfl]
    exact isDefaultOf_iff.mpr ⟨active, rfl⟩
  apply fair.proper proper commits
  · intro id row found own seen' archives
    rw [promoted_isArchived] at archives
    by_cases here : id = next
    · subst here
      cases seen.symm.trans seen'
      rw [(isActive_iff.mp active).2] at archives
      cases archives
    · rw [promoted_of_ne here]
      exact deletes.archived proper found own archives
  · intro id row found seen' default lost _
    by_cases here : id = next
    · subst here
      cases seen.symm.trans seen'
      rw [chosen'] at lost
      cases lost
    · rw [promoted_of_ne here] at lost
      rcases deletes.lost found default lost with ⟨rfl, _⟩
      cases Snapshot.committed commits next with
      | untouched same _ =>
        rw [Snapshot.lookup_mapRows, seen, Option.map_some] at same
        rcases same with same | absent
        · rw [Option.some.inj same] at chosen'
          exact (here (single uid document.id next row old seen' seen default chosen')).elim
        · cases absent
      | written row' mine _ _ stored =>
        rw [Snapshot.lookup_mapRows, seen] at mine
        cases mine
        exact ⟨next, _, stored, chosen'⟩

end

/-! ## Creation -/

section

variable {uid owner : Uid} {snapshot rows after : Addresses}
  {drawn : ObjectId} {created : Address} {makeDefault : Bool}

/-- A creation, as it is seen by any customer. -/
structure Creates (owner : Uid) (makeDefault : Bool) (drawn : ObjectId)
    (created : Address) (snapshot rows after : Addresses) : Prop where
  own : created.uid = owner
  active : created.isArchived = false
  default : created.isDefault = makeDefault
  fresh : snapshot.lookup drawn = none
  fresh' : rows.lookup drawn = none
  commits : Snapshot.commit snapshot
    ((if makeDefault then clearDefaults owner snapshot
      else snapshot).insert drawn created) rows = some after

variable {id : ObjectId} {row : Address}

theorem Creates.stored
    (creates : Creates owner makeDefault drawn created snapshot rows after) :
    after.lookup drawn = some created :=
  Snapshot.committed_new creates.commits creates.fresh (AList.lookup_insert _)

theorem Creates.view (makeDefault : Bool) (different : id ≠ drawn) :
    ((if makeDefault then clearDefaults owner snapshot
        else snapshot).insert drawn created).lookup id =
      (snapshot.lookup id).map fun row =>
        if makeDefault then row.cleared owner else row := by
  rw [AList.lookup_insert_ne different]
  cases makeDefault with
  | false => exact Option.map_id'.symm ▸ rfl
  | true =>
    rw [if_pos rfl, clearDefaults, Snapshot.lookup_mapRows]
    rfl

theorem Creates.before
    (creates : Creates owner makeDefault drawn created snapshot rows after)
    (different : id ≠ drawn) (found : after.lookup id = some row) :
    ∃ before, rows.lookup id = some before ∧
      (row = before ∨ makeDefault = true ∧ row = before.cleared owner) := by
  have views := @Creates.view owner snapshot drawn created id makeDefault different
  rcases Snapshot.lookup_of_committed_change creates.commits views found with ⟨before, stored⟩
  refine ⟨before, stored, ?_⟩
  rcases Snapshot.committed_change creates.commits views stored with ⟨kept, _⟩ | ⟨_, written⟩
  · exact .inl (Option.some.inj (found.symm.trans kept))
  · have same := Option.some.inj (found.symm.trans written)
    cases makeDefault with
    | false => exact .inl same
    | true => exact .inr ⟨rfl, same⟩

theorem Creates.active_before
    (creates : Creates owner makeDefault drawn created snapshot rows after)
    (different : id ≠ drawn) (found : after.lookup id = some row)
    (active : isActive uid row = true) :
    ∃ before, rows.lookup id = some before ∧ isActive uid before = true := by
  rcases creates.before different found with ⟨before, stored, rfl | ⟨_, rfl⟩⟩
  · exact ⟨row, stored, active⟩
  · rw [isActive, cleared_uid, cleared_isArchived] at active
    exact ⟨before, stored, active⟩

theorem Creates.archived
    (creates : Creates owner makeDefault drawn created snapshot rows after)
    (proper : Proper uid rows) :
    ∀ id row, after.lookup id = some row → row.uid = uid →
      row.isArchived = true → row.isDefault = false := by
  intro id row found own archives
  by_cases here : id = drawn
  · subst here
    cases found.symm.trans creates.stored
    rw [creates.active] at archives
    cases archives
  · rcases creates.before here found with ⟨before, stored, rfl | ⟨_, rfl⟩⟩
    · exact proper.archived id row stored own archives
    · rw [cleared_uid] at own
      rw [cleared_isArchived] at archives
      have inactive := proper.archived id before stored own archives
      rw [cleared_of_not_default inactive]
      exact inactive

theorem Creates.keeps
    (creates : Creates owner makeDefault drawn created snapshot rows after)
    (found : rows.lookup id = some row)
    (default : isDefaultOf uid row = true)
    (spared : makeDefault = false ∨ owner ≠ uid) :
    after.lookup id = some row := by
  have different : id ≠ drawn := by
    rintro rfl
    rw [creates.fresh'] at found
    cases found
  have views := @Creates.view owner snapshot drawn created id makeDefault different
  rcases Snapshot.committed_change creates.commits views found with ⟨kept, _⟩ | ⟨_, written⟩
  · exact kept
  · rw [written]
    rcases spared with rfl | other
    · rfl
    · have own := (isActive_iff.mp (isDefaultOf_iff.mp default).1).1
      rw [cleared_of_ne fun same => other (same.symm.trans own), ite_self]

theorem Creates.count
    (creates : Creates owner makeDefault drawn created snapshot rows after) :
    activeCount uid after ≤ activeCount uid rows + if owner = uid then 1 else 0 := by
  rw [activeCount, activeCount, countRows_eq drawn _ after,
    countRows_eq drawn _ rows, creates.fresh', creates.stored,
    Option.any_none, Option.any_some, if_neg Bool.false_ne_true, Nat.add_zero]
  apply Nat.add_le_add
  · apply countP_le_of_lookup
    intro id row found counted
    rcases Bool.and_eq_true_iff.mp counted with ⟨different, active⟩
    rcases creates.active_before (bne_iff_ne.mp different) found active with
      ⟨before, stored, active'⟩
    exact ⟨before, stored, Bool.and_eq_true_iff.mpr ⟨different, active'⟩⟩
  · split
    · rename_i active
      rw [if_pos (creates.own.symm.trans (isActive_iff.mp active).1)]
    · exact Nat.zero_le _

theorem Creates.proper
    (creates : Creates uid makeDefault drawn created snapshot rows after)
    (proper : Proper uid rows)
    (room : activeCount uid rows < MAX_ADDRESSES_PER_CUSTOMER)
    (first : makeDefault = true ∨ activeCount uid rows ≠ 0) :
    Proper uid after where
  archived := creates.archived proper
  covered := by
    intro _ _ _ _
    cases made : makeDefault with
    | true =>
      refine ⟨drawn, created, creates.stored, isDefaultOf_iff.mpr ⟨?_, ?_⟩⟩
      · exact isActive_iff.mpr ⟨creates.own, creates.active⟩
      · exact creates.default.trans made
    | false =>
      have some := first.resolve_left (by rw [made]; exact nofun)
      rcases List.countP_pos_iff.mp (Nat.pos_of_ne_zero some) with ⟨⟨other, row⟩, member, active⟩
      rcases proper.covered other row (AList.mem_lookup_iff.mpr member) active with
        ⟨third, default, stored, defaults⟩
      exact ⟨third, default, creates.keeps stored defaults (.inl made), defaults⟩
  bounded := by
    have counted := @Creates.count uid uid snapshot rows after drawn created makeDefault creates
    rw [if_pos rfl] at counted
    exact counted.trans room

theorem Creates.proper_of_apart
    (creates : Creates owner makeDefault drawn created snapshot rows after)
    (proper : Proper uid rows) (different : owner ≠ uid) :
    Proper uid after where
  archived := creates.archived proper
  covered := by
    intro id row found active
    have other : id ≠ drawn := by
      rintro rfl
      cases found.symm.trans creates.stored
      exact different (creates.own.symm.trans (isActive_iff.mp active).1)
    rcases creates.active_before other found active with ⟨before, stored, active'⟩
    rcases proper.covered id before stored active' with ⟨third, default, stored', defaults⟩
    exact ⟨third, default, creates.keeps stored' defaults (.inr different), defaults⟩
  bounded := by
    have counted := @Creates.count uid owner snapshot rows after drawn created makeDefault creates
    rw [if_neg different] at counted
    exact counted.trans proper.bounded

end

end Lalaba.Addresses
