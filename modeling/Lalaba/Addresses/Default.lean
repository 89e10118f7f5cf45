import Lalaba.Addresses.Rows

/-!
# The default address

A customer with addresses has one default as long as what an operation has read is
still true of the rows it commits to, and as long as no run is made with documents that
an aborted run has saved.
-/

namespace Lalaba.Addresses

open Foundation
open Foundation.Configuration
open Foundation.Snapshot (mapRows)

/-! ## Documents -/

namespace Document

variable {document other : Document}

def flags (document : Document) :
    ObjectId × Bool × Option Bool × Option Bool :=
  (document.id, document.values.isDefault, document.modified.isDefault,
    document.modified.isArchived)

theorem setLabel_flags {label : Option String} :
    (document.setLabel label).flags = document.flags := by
  rw [setLabel]
  dsimp only
  split <;> rfl

theorem setAddress_flags {address : BranchAddress} :
    (document.setAddress address).flags = document.flags := by
  rw [setAddress]
  split <;> rfl

theorem setMapLocation_flags {mapLocation : MapLocation} :
    (document.setMapLocation mapLocation).flags = document.flags := by
  rw [setMapLocation]
  split <;> rfl

theorem setAccessInstructions_flags {instructions : Option String} :
    (document.setAccessInstructions instructions).flags =
      document.flags := by
  rw [setAccessInstructions]
  dsimp only
  split <;> rfl

theorem assignIf_flags {Value : Type} {value : Option Value}
    {set : Value → Document → Document}
    (keeps : ∀ value document, (set value document).flags = document.flags) :
    (assignIf value set document).flags = document.flags := by
  cases value with
  | none => rfl
  | some value => exact keeps value document

theorem assign_flags {input : UpdateAddressInput} :
    ∃ before : Document, before.flags = document.flags ∧
      document.assign input = before.assignIf input.isDefault setIsDefault := by
  refine ⟨_, ?_, rfl⟩
  rw [assignIf_flags fun _ _ => setAccessInstructions_flags,
    assignIf_flags fun _ _ => setMapLocation_flags,
    assignIf_flags fun _ _ => setAddress_flags,
    assignIf_flags fun _ _ => setLabel_flags]

variable {isDefault : Bool} {input : UpdateAddressInput}

theorem setIsDefault_id : (document.setIsDefault isDefault).id = document.id := by
  rw [setIsDefault]
  split <;> rfl

theorem setIsDefault_isArchived :
    (document.setIsDefault isDefault).modified.isArchived =
      document.modified.isArchived := by
  rw [setIsDefault]
  split <;> rfl

theorem setIsDefault_isDefault :
    (document.setIsDefault isDefault).modified.isDefault =
      if document.values.isDefault = isDefault then
        document.modified.isDefault
      else some isDefault := by
  rw [setIsDefault]
  split <;> rfl

theorem assign_id : (document.assign input).id = document.id := by
  rcases @assign_flags document input with ⟨before, same, assigned⟩
  have id := (Prod.mk.inj same).1
  rw [assigned]
  cases input.isDefault with
  | none => exact id
  | some isDefault => exact setIsDefault_id.trans id

theorem assign_isArchived :
    (document.assign input).modified.isArchived =
      document.modified.isArchived := by
  rcases @assign_flags document input with ⟨before, same, assigned⟩
  have isArchived := (Prod.mk.inj (Prod.mk.inj (Prod.mk.inj same).2).2).2
  rw [assigned]
  cases input.isDefault with
  | none => exact isArchived
  | some isDefault => exact setIsDefault_isArchived.trans isArchived

theorem assign_isDefault (asks : input.isDefault = some true)
    (unset : document.values.isDefault = false) :
    (document.assign input).modified.isDefault = some true := by
  rcases @assign_flags document input with ⟨before, same, assigned⟩
  have isDefault := (Prod.mk.inj (Prod.mk.inj same).2).1
  rw [assigned, asks, assignIf, setIsDefault_isDefault, isDefault, unset]
  rfl

theorem archive_id {now : Instant} : (document.archive now).id = document.id := by
  rw [archive, setIsDefault_id, setArchivedAt]
  split <;> (rw [setIsArchived]; split <;> rfl)

theorem setIsArchived_archiving (archiving : Archiving document) :
    Archiving (document.setIsArchived true) := by
  rw [setIsArchived]
  split
  · exact archiving
  · exact ⟨nofun, archiving.default⟩

theorem setArchivedAt_archiving {now : Instant}
    (archiving : Archiving document) :
    Archiving (document.setArchivedAt now) := by
  rw [setArchivedAt]
  split
  · exact archiving
  · exact ⟨archiving.archived, archiving.default⟩

theorem setIsDefault_archiving (archiving : Archiving document) :
    Archiving (document.setIsDefault false) := by
  rw [setIsDefault]
  split
  · exact archiving
  · exact ⟨archiving.archived, nofun⟩

theorem archive_archiving {now : Instant}
    (archiving : Archiving document) : Archiving (document.archive now) :=
  setIsDefault_archiving (setArchivedAt_archiving (setIsArchived_archiving archiving))

end Document

/-! ## Operations -/

namespace Operation

def Formed : Operation → Prop
  | create _ _ _ => True
  | update _ document _ => document.modified.isArchived = none
  | setDefault _ document =>
    document.modified.isArchived = none ∧ document.modified.isDefault ≠ some false
  | delete _ document _ => Archiving document

def Sited (operation : Operation) (rows : Addresses) : Prop :=
  ∀ document, operation.existing = some document → Owned operation.uid document rows

/--
What an operation has read still holds of the rows it commits to: there is room for an
address, and one that is not the default is not the only one; an address becomes the
default only while it is active, and loses the flag only when it does not have it; one
that is the default now was read as such by its deletion, which sees another address
if there is one.  A document that an aborted run has saved has nothing left to write.
-/
def safe (now : Instant) (snapshot rows : Addresses) : Operation → Bool
  | create uid _ makeDefault =>
    activeCount uid rows < MAX_ADDRESSES_PER_CUSTOMER && (makeDefault || activeCount uid rows != 0)
  | update uid document input =>
    match (document.assign input).modified.isDefault with
    | some true => (rows.lookup document.id).any (isActive uid)
    | some false =>
      !(rows.lookup document.id).any fun row => row.isDefault
    | none => true
  | setDefault uid document =>
    (document.setIsDefault true).modified.isDefault == some true &&
      (rows.lookup document.id).any (isActive uid)
  | delete uid document wasDefault =>
    let modified := (document.archive now).modified
    (modified.isArchived != some true &&
        modified.isDefault != some false) ||
      (!(rows.lookup document.id).any fun row => row.isDefault) ||
      (modified.isArchived == some true &&
        modified.isDefault == some false && wasDefault &&
        (!hasOther uid document.id rows || hasOther uid document.id snapshot))

variable {operation : Operation} {uid : Uid} {drawn : ObjectId}
  {now : Instant} {snapshot rows after : Addresses}

theorem Formed.assigned (formed : operation.Formed) : (operation.assigned now).Formed := by
  cases operation with
  | create _ _ _ => trivial
  | update _ document _ =>
    exact Document.assign_isArchived.trans formed
  | setDefault _ document =>
    refine ⟨Document.setIsDefault_isArchived.trans formed.1, ?_⟩
    rw [Document.setIsDefault_isDefault]
    split
    · exact formed.2
    · exact nofun
  | delete _ document _ => exact Document.archive_archiving formed

theorem Formed.saved (formed : operation.Formed) :
    operation.saved.Formed := by
  cases operation with
  | create _ _ _ => trivial
  | update _ _ _ => rfl
  | setDefault _ _ => exact ⟨rfl, nofun⟩
  | delete _ _ _ => exact ⟨nofun, nofun⟩

theorem Sited.assigned (sited : operation.Sited rows) : (operation.assigned now).Sited rows := by
  intro document existing
  cases operation with
  | create _ _ _ => cases existing
  | update _ old _ =>
    cases existing
    rw [Owned, Document.assign_id]
    exact sited old rfl
  | setDefault _ old =>
    cases existing
    rw [Owned, Document.setIsDefault_id]
    exact sited old rfl
  | delete _ old _ =>
    cases existing
    rw [Owned, Document.archive_id]
    exact sited old rfl

theorem Sited.saved (sited : operation.Sited rows) :
    operation.saved.Sited rows := by
  intro document existing
  cases operation with
  | create _ _ _ => cases existing
  | update _ old | setDefault _ old | delete _ old =>
    cases existing
    exact sited old rfl

def clears (document : Document) (input : UpdateAddressInput) : Bool :=
  input.isDefault == some true && !document.values.isDefault

theorem run_update {document : Document} {input : UpdateAddressInput} :
    (update uid document input).run drawn now rows =
      mapRows (settled (clears document input) uid (document.assign input))
        rows := by
  rw [run, clears]
  cases asks : input.isDefault == some true with
  | false =>
    rw [if_neg fun both => by simp [both.1] at asks]
    rfl
  | true =>
    cases isDefault : document.values.isDefault with
    | true =>
      rw [if_neg fun both => by cases both.2]
      rfl
    | false =>
      rw [if_pos ⟨eq_of_beq asks, rfl⟩]
      exact Snapshot.mapRows_mapRows

theorem run_setDefault {document : Document} :
    (setDefault uid document).run drawn now rows =
      mapRows (settled true uid (document.setIsDefault true)) rows :=
  Snapshot.mapRows_mapRows

theorem run_fair (formed : operation.Formed)
    (creates : ∀ uid input makeDefault, operation ≠ create uid input makeDefault) :
    ∃ change, Fair change ∧ operation.run drawn now snapshot = mapRows change snapshot := by
  cases operation with
  | create uid input makeDefault => exact (creates uid input makeDefault rfl).elim
  | update uid document input =>
    exact ⟨_, settled_fair (Document.assign_isArchived.trans formed), run_update⟩
  | setDefault uid document =>
    exact ⟨_, settled_fair (Document.setIsDefault_isArchived.trans formed.1), run_setDefault⟩
  | delete uid document wasDefault =>
    have fair := (@Document.archive_archiving document now formed).write_fair
    rw [run]
    split
    · exact ⟨_, fair, rfl⟩
    · rename_i next _
      refine ⟨fun id row =>
        ((document.archive now).write id row).promoted next id, ?_,
        Snapshot.mapRows_mapRows⟩
      exact
        { uid := fun id row => promoted_uid.trans write_uid
          archived := fun id row kept =>
            fair.archived id row (promoted_isArchived ▸ kept) }

theorem creates_of_commit {input : CreateAddressInput} {makeDefault : Bool}
    (unused : (create uid input makeDefault).collides drawn snapshot = false)
    (unused' : (create uid input makeDefault).collides drawn rows = false)
    (commits : Snapshot.commit snapshot
      ((create uid input makeDefault).run drawn now snapshot) rows = some after) :
    ∃ created,
      Creates uid makeDefault drawn created snapshot rows after :=
  ⟨_,
    { own := rfl
      active := rfl
      default := rfl
      fresh := Option.isNone_iff_eq_none.mp (Option.isSome_eq_false_iff.mp unused)
      fresh' := Option.isNone_iff_eq_none.mp (Option.isSome_eq_false_iff.mp unused')
      commits := commits }⟩

theorem keeps_rows (formed : operation.Formed)
    (unused' : operation.collides drawn rows = false)
    (commits : Snapshot.commit snapshot (operation.run drawn now snapshot) rows = some after)
    {id : ObjectId} {row : Address} (found : rows.lookup id = some row) :
    ∃ row', after.lookup id = some row' ∧ row'.uid = row.uid := by
  by_cases creates : ∃ uid input makeDefault, operation = create uid input makeDefault
  · rcases creates with ⟨uid, input, makeDefault, rfl⟩
    have different : id ≠ drawn := by
      rintro rfl
      rw [collides, found] at unused'
      cases unused'
    have views := @Creates.view uid snapshot drawn
      { uid
        label := input.label.map Orders.trimmed
        address := input.address
        mapLocation := input.mapLocation
        accessInstructions := input.accessInstructions.map Orders.trimmed
        isDefault := makeDefault
        createdAt := now } id makeDefault different
    rcases Snapshot.committed_change commits views found with ⟨kept, _⟩ | ⟨_, written⟩
    · exact ⟨row, kept, rfl⟩
    · exact ⟨_, written, base_uid⟩
  · rcases @run_fair operation drawn now snapshot formed (fun uid input makeDefault same =>
          creates ⟨uid, input, makeDefault, same⟩) with
      ⟨change, fair, runs⟩
    rw [runs] at commits
    rcases Snapshot.committed_change commits Snapshot.lookup_mapRows found with
      ⟨kept, _⟩ | ⟨_, written⟩
    · exact ⟨row, kept, rfl⟩
    · exact ⟨_, written, fair.uid id row⟩

/-- A commit that is safe for its customer keeps every address book proper. -/
theorem proper_of_commit {customer : Uid} (formed : operation.Formed)
    (sited : operation.Sited snapshot) (single : Single snapshot)
    (before : Proper customer snapshot) (proper : Proper customer rows)
    (unused : operation.collides drawn snapshot = false)
    (unused' : operation.collides drawn rows = false)
    (commits : Snapshot.commit snapshot (operation.run drawn now snapshot) rows = some after)
    (safe : operation.uid = customer → operation.safe now snapshot rows = true) :
    Proper customer after := by
  cases operation with
  | create uid input makeDefault =>
    rcases creates_of_commit unused unused' commits with ⟨created, creates⟩
    by_cases own : uid = customer
    · subst own
      rcases Bool.and_eq_true_iff.mp (safe rfl) with ⟨room, first⟩
      refine creates.proper proper (of_decide_eq_true room) ?_
      exact (Bool.or_eq_true_iff.mp first).imp_right bne_iff_ne.mp
    · exact creates.proper_of_apart proper own
  | update uid document input =>
    have kept : (document.assign input).modified.isArchived = none :=
      Document.assign_isArchived.trans formed
    have owned : Owned uid (document.assign input) snapshot := by
      rw [Owned, Document.assign_id]
      exact sited document rfl
    rw [run_update] at commits
    by_cases own : uid = customer
    · subst own
      have holds := safe rfl
      rw [Operation.safe] at holds
      by_cases writes : (document.assign input).modified.isDefault = some true
      · rw [writes] at holds
        apply proper_of_default proper before single commits kept writes owned
        rw [Document.assign_id]
        exact holds
      · have cleared : clears document input = false := by
          rw [← Bool.not_eq_true]
          intro cleared
          rcases Bool.and_eq_true_iff.mp cleared with ⟨asks, unset⟩
          exact writes (Document.assign_isDefault (eq_of_beq asks) ((Bool.not_eq_true' _).mp unset))
        rw [cleared] at commits
        apply proper_of_plain proper commits kept writes
        intro writes'
        rw [writes'] at holds
        rw [Document.assign_id]
        exact (Bool.not_eq_true' _).mp holds
    · apply (settled_fair kept).proper_of_apart proper commits
      exact fun id row seen own' => settled_of_apart owned own seen own'
  | setDefault uid document =>
    have kept :
        (document.setIsDefault true).modified.isArchived = none :=
      Document.setIsDefault_isArchived.trans formed.1
    have owned : Owned uid (document.setIsDefault true) snapshot := by
      rw [Owned, Document.setIsDefault_id]
      exact sited document rfl
    rw [run_setDefault] at commits
    by_cases own : uid = customer
    · subst own
      rcases Bool.and_eq_true_iff.mp (safe rfl) with ⟨writes, active⟩
      apply proper_of_default proper before single commits kept (eq_of_beq writes) owned
      rw [Document.setIsDefault_id]
      exact active
    · apply (settled_fair kept).proper_of_apart proper commits
      exact fun id row seen own' => settled_of_apart owned own seen own'
  | delete uid document wasDefault =>
    have archiving : Archiving (document.archive now) := Document.archive_archiving formed
    have owned : Owned uid (document.archive now) snapshot := by
      rw [Owned, Document.archive_id]
      exact sited document rfl
    rw [run] at commits
    by_cases own : uid = customer
    · subst own
      have deletes : Deletes uid (document.archive now) wasDefault
          snapshot rows := by
        refine ⟨archiving, owned, ?_⟩
        have holds := safe rfl
        rw [Operation.safe] at holds
        rw [Document.archive_id]
        rcases Bool.or_eq_true_iff.mp holds with holds | holds
        · rcases Bool.or_eq_true_iff.mp holds with idle | unset
          · left
            rcases Bool.and_eq_true_iff.mp idle with ⟨first, second⟩
            exact ⟨bne_iff_ne.mp first, bne_iff_ne.mp second⟩
          · exact .inr (.inl ((Bool.not_eq_true' _).mp unset))
        · right
          right
          rcases Bool.and_eq_true_iff.mp holds with ⟨holds, others⟩
          rcases Bool.and_eq_true_iff.mp holds with ⟨holds, read⟩
          rcases Bool.and_eq_true_iff.mp holds with ⟨first, second⟩
          refine ⟨eq_of_beq first, eq_of_beq second, read, ?_⟩
          intro there
          rw [there] at others
          exact others
      split at commits
      · rename_i chosen
        apply deletes.proper_of_none proper commits
        intro read
        rw [if_pos read] at chosen
        exact chosen
      · rename_i next chosen
        cases read : wasDefault with
        | false =>
          rw [read, if_neg Bool.false_ne_true] at chosen
          cases chosen
        | true =>
          rw [if_pos read] at chosen
          exact deletes.proper_of_some proper single chosen commits
    · have apart : ∀ id row, snapshot.lookup id = some row →
          row.uid = customer →
          (document.archive now).write id row = row := by
        rintro id row seen own'
        apply write_of_ne
        rintro rfl
        rcases owned with ⟨row', seen', own''⟩
        cases seen.symm.trans seen'
        exact own (own''.symm.trans own')
      split at commits
      · exact archiving.write_fair.proper_of_apart proper commits apart
      · rename_i next chosen
        rw [promote, save, Snapshot.mapRows_mapRows] at commits
        have fair : Fair fun id row =>
            ((document.archive now).write id row).promoted next id :=
          { uid := fun id row => promoted_uid.trans write_uid
            archived := fun id row kept =>
              archiving.write_fair.archived id row (promoted_isArchived ▸ kept) }
        apply fair.proper_of_apart proper commits
        intro id row seen own'
        rw [apart id row seen own']
        apply promoted_of_ne
        rintro rfl
        cases wasDefault with
        | false => cases chosen
        | true =>
          rw [if_pos rfl] at chosen
          rcases newest_spec chosen with ⟨row', view, active⟩
          rw [save, Snapshot.lookup_mapRows, seen, Option.map_some] at view
          cases view
          have own'' := (isActive_iff.mp active).1
          rw [write_uid] at own''
          exact own (own''.symm.trans own')

end Operation

/-! ## Interleavings -/

abbrev Calls := Configuration Addresses Call

def keepsDefault (uid : Uid) (configuration : Calls) :
    Move Request Tick → Bool
  | .enter _ => true
  | .resume index tick =>
    match configuration.calls[index]? with
    | some (some (.commit operation snapshot)) =>
      operation.uid != uid || tick.aborts.isSome ||
        operation.safe tick.now snapshot configuration.store
    | _ => true

/-- What is true of the rows between any two steps. -/
structure Good (uid : Uid) (rows : Addresses) : Prop where
  single : Single rows
  proper : Proper uid rows

def Sound (uid : Uid) (rows : Addresses) : Call → Prop
  | .count _ _ => True
  | .begin operation => operation.Formed ∧ operation.Sited rows
  | .commit operation snapshot =>
    operation.Formed ∧ operation.Sited rows ∧ operation.Sited snapshot ∧ Good uid snapshot

section

variable {uid : Uid} {rows after : Addresses} {call : Call} {tick : Tick} {next : Option Call}

theorem findOwned_spec {id : ObjectId} {document : Document}
    (found : findOwned id uid rows = .ok document) :
    document.modified = {} ∧ Owned uid document rows := by
  rw [findOwned] at found
  split at found
  · cases found
  · rename_i row stored
    split at found
    · cases found
    · split at found
      · cases found
      · rename_i own
        cases found
        exact ⟨rfl, row, stored, not_not.mp own⟩

theorem sound_enter {request : Request}
    (enters : enter request rows = some call) : Sound uid rows call := by
  cases request with
  | createAddress owner input =>
    cases enters
    trivial
  | updateAddress id owner input =>
    simp only [enter] at enters
    split at enters
    · cases enters
    · rename_i document found
      cases enters
      rcases findOwned_spec found with ⟨clean, owned⟩
      refine ⟨congrArg Modified.isArchived clean, ?_⟩
      intro _ existing
      cases existing
      exact owned
  | setDefaultAddress id owner =>
    simp only [enter] at enters
    split at enters
    · cases enters
    · rename_i document found
      split at enters
      · cases enters
      · cases enters
        rcases findOwned_spec found with ⟨clean, owned⟩
        refine ⟨⟨congrArg Modified.isArchived clean, ?_⟩, ?_⟩
        · rw [clean]
          exact nofun
        · intro _ existing
          cases existing
          exact owned
  | deleteAddress id owner =>
    simp only [enter] at enters
    split at enters
    · cases enters
    · rename_i document found
      cases enters
      rcases findOwned_spec found with ⟨clean, owned⟩
      refine ⟨⟨?_, ?_⟩, ?_⟩
      · rw [clean]
        exact nofun
      · rw [clean]
        exact nofun
      · intro _ existing
        cases existing
        exact owned

/-- What a step of a call can be. -/
inductive Resumed (tick : Tick) (rows : Addresses) : Call → Addresses → Option Call → Prop where
  | full (uid : Uid) (input : CreateAddressInput) : Resumed tick rows (.count uid input) rows none
  | counted (uid : Uid) (input : CreateAddressInput) (makeDefault : Bool) :
      Resumed tick rows (.count uid input) rows (some (.begin (.create uid input makeDefault)))
  | begun (operation : Operation) :
      Resumed tick rows (.begin operation) rows (some (.commit operation rows))
  | aborted (operation again : Operation) (snapshot : Addresses)
      (retries : again = operation ∨ again = operation.assigned tick.now ∨
        again = (operation.assigned tick.now).saved) :
      Resumed tick rows (.commit operation snapshot) rows (some (.begin again))
  | refused (operation : Operation) (snapshot : Addresses) :
      Resumed tick rows (.commit operation snapshot) rows none
  | committed (operation : Operation) (snapshot after : Addresses)
      (runs : tick.aborts = none)
      (unused : operation.collides tick.drawn snapshot = false)
      (unused' : operation.collides tick.drawn rows = false)
      (commits : Snapshot.commit snapshot
        (operation.run tick.drawn tick.now snapshot) rows = some after)
      (kept : violates after = false) :
      Resumed tick rows (.commit operation snapshot) after none

theorem resumed_of_resume
    (resumes : resume tick call rows = some (after, next)) :
    Resumed tick rows call after next := by
  cases call with
  | count owner input =>
    simp only [resume] at resumes
    split at resumes
    · cases resumes
      exact .full owner input
    · cases resumes
      exact .counted owner input _
  | begin operation =>
    cases resumes
    exact .begun operation
  | commit operation snapshot =>
    simp only [resume] at resumes
    split at resumes
    · cases resumes
      exact .aborted operation _ snapshot (.inl rfl)
    · cases resumes
      exact .aborted operation _ snapshot (.inr (.inl rfl))
    · cases resumes
      exact .aborted operation _ snapshot (.inr (.inr rfl))
    · rename_i runs
      split at resumes
      · cases resumes
      · rename_i fresh
        rw [Bool.or_eq_true, not_or, Bool.not_eq_true, Bool.not_eq_true] at fresh
        split at resumes
        · cases resumes
          exact .refused operation snapshot
        · split at resumes
          · cases resumes
          · rename_i after' commits
            split at resumes
            · cases resumes
              exact .refused operation snapshot
            · rename_i kept
              cases resumes
              exact .committed operation snapshot _ runs fresh.1
                fresh.2 commits (Bool.not_eq_true _ ▸ kept)

theorem Resumed.sited (resumed : Resumed tick rows call after next)
    (sound : Sound uid rows call) {operation : Operation}
    (sited : operation.Sited rows) : operation.Sited after := by
  cases resumed with
  | committed other snapshot _ _ _ unused' commits _ =>
    intro document existing
    rcases sited document existing with ⟨row, found, own⟩
    rcases Operation.keeps_rows sound.1 unused' commits found with ⟨row', stored, same⟩
    exact ⟨row', stored, same.trans own⟩
  | full | counted | begun | aborted | refused => exact sited

theorem obligations : addressBook.Obligations (fun _ => True) (fun configuration move =>
        keepsDefault uid configuration move = true)
      (Good uid) (Sound uid) where
  entered := fun _ _ _ _ enters => sound_enter enters
  resumed := by
    intro configuration index tick call after next _ allowed waits good sound resumes
    cases resumed_of_resume resumes with
    | full | refused => exact ⟨good, fun _ absent => by cases absent⟩
    | counted owner input makeDefault =>
      refine ⟨good, ?_⟩
      intro call' follows
      cases follows
      exact ⟨trivial, fun _ absent => by cases absent⟩
    | begun operation =>
      refine ⟨good, ?_⟩
      intro call' follows
      cases follows
      exact ⟨sound.1, sound.2, sound.2, good⟩
    | aborted operation again snapshot retries =>
      refine ⟨good, ?_⟩
      intro call' follows
      cases follows
      rcases sound with ⟨formed, sited, _⟩
      rcases retries with rfl | rfl | rfl
      · exact ⟨formed, sited⟩
      · exact ⟨formed.assigned, sited.assigned⟩
      · exact ⟨formed.assigned.saved, sited.assigned.saved⟩
    | committed operation snapshot _ runs unused unused' commits kept =>
      refine ⟨⟨single_of_violates kept, ?_⟩,
        fun _ absent => by cases absent⟩
      rcases sound with ⟨formed, _, sited, before⟩
      apply Operation.proper_of_commit formed sited before.single
        before.proper good.proper unused unused' commits
      intro own
      rw [keepsDefault, waits] at allowed
      dsimp only at allowed
      rw [own, bne_self_eq_false, runs] at allowed
      exact allowed
  stable := by
    intro configuration index tick call after next place other _ _ _ _ _ _ sound sound' resumes
    have resumed := resumed_of_resume resumes
    cases other with
    | count _ _ => trivial
    | begin operation => exact ⟨sound'.1, resumed.sited sound sound'.2⟩
    | commit operation snapshot =>
      exact ⟨sound'.1, resumed.sited sound sound'.2.1, sound'.2.2⟩

theorem good_empty : Good uid (∅ : Addresses) where
  single := by
    intro _ _ _ _ _ found
    rw [AList.lookup_empty] at found
    cases found
  proper :=
    { archived := by
        intro _ _ found
        rw [AList.lookup_empty] at found
        cases found
      covered := by
        intro _ _ found
        rw [AList.lookup_empty] at found
        cases found
      bounded := Nat.zero_le _ }

/--
In a run in which what the operations of a customer have read still holds when they
commit, the customer has exactly one default address, if any address at all.
-/
theorem customerHasOneDefault (uid : Uid) {configuration : Calls}
    (reached : addressBook.system.Reaches (fun configuration move =>
        keepsDefault uid configuration move = true) (.start ∅) configuration) :
    OneDefault uid configuration.store := by
  have invariant : Service.Invariant (Good uid) (Sound uid) configuration := by
    refine reached.invariant (Service.Invariant (Good uid) (Sound uid)) ?_ ?_
    · exact Service.invariant_start good_empty
    · exact fun _ _ _ invariant allowed stepped =>
        obligations.step trivial invariant allowed stepped
  exact invariant.good.proper.oneDefault invariant.good.single

end

namespace Sample

def input (isDefault : Bool) : CreateAddressInput where
  label := some " Home "
  address :=
    { unit := none
      regionName := "NCR"
      provinceName := "Metro Manila"
      cityMunicipalityName := "Makati"
      barangayName := "Poblacion"
      streetAddress := "1 Rizal St"
      zipCode := none }
  mapLocation := { latitude := 14, longitude := 121 }
  accessInstructions := none
  isDefault := some isDefault

def goesOn (index : ℕ) (now : Instant) (drawn : ObjectId) :
    Move Request Tick :=
  .resume index { now, drawn }

def fails (index : ℕ) (now : Instant) : Move Request Tick :=
  .resume index { now, aborts := some .saved }

def home : List (Move Request Tick) :=
  [.enter (.createAddress "customer" (input false)), goesOn 0 1 "",
    goesOn 0 2 "", goesOn 0 3 "home"]

def office : List (Move Request Tick) :=
  [.enter (.createAddress "customer" (input true)), goesOn 1 4 "",
    goesOn 1 5 "", fails 1 6, goesOn 1 7 "", goesOn 1 8 "office",
    .enter (.deleteAddress "office" "customer"), goesOn 2 9 "",
    goesOn 2 10 ""]

def seen (configuration : Calls) : List (ObjectId × Bool × Bool) :=
  configuration.store.entries.map fun entry =>
    (entry.1, isActive "customer" entry.2, entry.2.isDefault)

end Sample

/-- The home is the default again when the office is deleted. -/
theorem customerHasOneDefault_office :
    ∃ configuration : Calls, addressBook.system.Reaches (fun configuration move =>
            keepsDefault "customer" configuration move = true)
          (.start ∅) configuration ∧
        Sample.seen configuration = [("office", false, false), ("home", true, true)] ∧
        OneDefault "customer" configuration.store := by
  have performed : ((addressBook.system.restrict (fun configuration move =>
          keepsDefault "customer" configuration move = true)).perform
        (Sample.home ++ Sample.office) (.start ∅)).map Sample.seen =
          some [("office", false, false), ("home", true, true)] := by
    decide +kernel
  rcases System.reaches_of_map_restrict performed with ⟨configuration, reached, seen⟩
  exact ⟨configuration, reached, seen, customerHasOneDefault "customer" reached⟩

/-- An update takes the flag from the only address. -/
theorem defaultTakenAway :
    ¬ ∀ (uid : Uid) (configuration : Calls),
      addressBook.system.Reaches (fun _ _ => True) (.start ∅) configuration →
      OneDefault uid configuration.store := by
  intro always
  have performed :
      (addressBook.system.perform (Sample.home ++
          [.enter (.updateAddress "home" "customer"
            { isDefault := some false }), Sample.goesOn 1 4 "",
            Sample.goesOn 1 5 ""])
        (.start ∅)).map Sample.seen = some [("home", true, false)] := by
    decide +kernel
  rcases System.reaches_of_map performed with ⟨configuration, ran, seen⟩
  have one := always "customer" configuration ran
  rw [Sample.seen, List.map_eq_singleton_iff] at seen
  rcases seen with ⟨⟨id, row⟩, entries, same⟩
  rcases Prod.mk.inj same with ⟨_, flags⟩
  rcases Prod.mk.inj flags with ⟨active, plain⟩
  have stored : configuration.store.lookup id = some row := by
    apply AList.mem_lookup_iff.mpr
    rw [entries]
    exact List.mem_singleton_self _
  rcases one.default ⟨id, row, stored, active⟩ with ⟨other, ⟨default, found, _, isDefault⟩, _⟩
  have member := AList.mem_lookup_iff.mp found
  rw [entries] at member
  cases List.mem_singleton.mp member
  rw [isDefault] at plain
  cases plain

end Lalaba.Addresses
