import Lalaba.Foundation.Outcome
import Lalaba.Staff.Grants

/-!
# Grants as they are written

A caller names branches and permissions by texts or by ids, and a text may have its
letters in either case.  The entries are merged by these texts and cast to ids after
that, so an id that is written in two ways is taken for two.
-/

namespace Lalaba.Users

open Foundation
open Staff

/-! ## Ids -/

def isHexDigit (char : Char) : Bool := char ∈ "0123456789abcdefABCDEF".toList

/-- A text that the constructor of `ObjectId` takes. -/
def isHexId (text : String) : Bool := text.toList.length = 24 && text.toList.all isHexDigit

/-- How an `ObjectId` is printed. -/
def lowerHex (text : String) : String := String.ofList (text.toList.map Char.toLower)

/-- `string | Types.ObjectId`. -/
inductive GivenId where
  | string (text : String)
  | objectId (id : ObjectId)
deriving DecidableEq

/-- `String(value)`. -/
def GivenId.text : GivenId → String
  | .string text => text
  | .objectId id => id

def toObjectId : GivenId → Except ServiceError ObjectId
  | .objectId id => .ok id
  | .string text =>
    if isHexId text then .ok (lowerHex text)
    else .error (.plain ("input must be a 24 character hex string, " ++
      "12 byte Uint8Array, or an integer"))

def GivenId.WellFormed : GivenId → Prop
  | .string text => isHexId text = true
  | .objectId id => isHexId id = true ∧ lowerHex id = id

instance : DecidablePred GivenId.WellFormed
  | .string text => inferInstanceAs (Decidable (isHexId text = true))
  | .objectId id =>
    inferInstanceAs (Decidable (isHexId id = true ∧ lowerHex id = id))

def GivenId.denotes (given : GivenId) : ObjectId := lowerHex given.text

/-! ## Entries -/

/-- `BranchAccessEntry`, in whatever shape the caller has. -/
structure GivenEntry where
  branchId : GivenId
  permissionIds : List GivenId

def GivenEntry.written (entry : GivenEntry) : BranchAccessEntry where
  branchId := entry.branchId.text
  permissionIds := entry.permissionIds.map GivenId.text

def GivenEntry.ofDerived (entry : BranchAccessEntry) : GivenEntry where
  branchId := .objectId entry.branchId
  permissionIds := entry.permissionIds.map .objectId

def castIds (texts : List String) : Except ServiceError (List ObjectId) :=
  texts.mapM fun text => toObjectId (.string text)

def castEntry (held : BranchAccessEntry) :
    Except ServiceError BranchAccessEntry := do
  let branchId ← toObjectId (.string held.branchId)
  let permissionIds ← castIds held.permissionIds
  return { branchId, permissionIds }

def castFields (fields : DerivedGrantFields) :
    Except ServiceError DerivedGrantFields := do
  let branchAccess ← fields.branchAccess.mapM castEntry
  let branchIds ← castIds fields.branchIds
  let permissionIds ← castIds fields.permissionIds
  return { branchAccess, branchIds, permissionIds }

def underTexts (entries : List GivenEntry) : DerivedGrantFields :=
  Staff.deriveGrantFields (entries.map GivenEntry.written)

def deriveGrantFields (entries : List GivenEntry) :
    Except ServiceError DerivedGrantFields :=
  castFields (underTexts entries)

/-- The fields that are derived say what the entries say, and say it once. -/
structure Mirrored (entries : List GivenEntry) (derived : DerivedGrantFields) : Prop where
  grants : ∀ branchId permissionId,
    permissionId ∈ grantsForBranch derived.branchAccess branchId ↔
      ∃ entry ∈ entries, entry.branchId.denotes = branchId ∧
        ∃ given ∈ entry.permissionIds, given.denotes = permissionId
  branches : ∀ branchId, branchId ∈ derived.branchIds ↔
    ∃ entry ∈ entries, entry.branchId.denotes = branchId
  branchesOnce : derived.branchIds.Nodup
  permissions : ∀ permissionId, permissionId ∈ derived.permissionIds ↔
    ∃ entry ∈ entries, ∃ given ∈ entry.permissionIds, given.denotes = permissionId
  permissionsOnce : derived.permissionIds.Nodup
  again : deriveGrantFields (derived.branchAccess.map GivenEntry.ofDerived) = .ok derived

/-- No id is written in two ways. -/
structure SpelledAlike (entries : List GivenEntry) : Prop where
  branches : ∀ entry ∈ entries, ∀ other ∈ entries,
    entry.branchId.denotes = other.branchId.denotes → entry.branchId.text = other.branchId.text
  permissions : ∀ entry ∈ entries, ∀ given ∈ entry.permissionIds,
    ∀ entry' ∈ entries, ∀ other ∈ entry'.permissionIds,
      given.denotes = other.denotes → given.text = other.text

def GivenEntry.WellFormed (entry : GivenEntry) : Prop :=
  entry.branchId.WellFormed ∧ ∀ given ∈ entry.permissionIds, given.WellFormed

instance : DecidablePred GivenEntry.WellFormed := fun entry =>
  inferInstanceAs (Decidable (entry.branchId.WellFormed ∧
    ∀ given ∈ entry.permissionIds, given.WellFormed))

section

variable {text : String} {given : GivenId}

theorem isHexDigit_toLower {char : Char} (digit : isHexDigit char = true) :
    isHexDigit char.toLower = true ∧ char.toLower.toLower = char.toLower := by
  have each : "0123456789abcdefABCDEF".toList.all (fun digit =>
      isHexDigit digit.toLower ∧ digit.toLower.toLower = digit.toLower) = true := by
    decide
  exact of_decide_eq_true (List.all_eq_true.mp each char (of_decide_eq_true digit))

theorem isHexId_lowerHex (hex : isHexId text = true) : isHexId (lowerHex text) = true := by
  rw [isHexId, Bool.and_eq_true, decide_eq_true_eq, List.all_eq_true] at hex
  rw [isHexId, lowerHex, String.toList_ofList, Bool.and_eq_true,
    decide_eq_true_eq, List.all_eq_true, List.length_map]
  refine ⟨hex.1, ?_⟩
  intro _ member
  rcases List.mem_map.mp member with ⟨char, present, rfl⟩
  exact (isHexDigit_toLower (hex.2 char present)).1

theorem lowerHex_lowerHex (hex : isHexId text = true) :
    lowerHex (lowerHex text) = lowerHex text := by
  rw [isHexId, Bool.and_eq_true, List.all_eq_true] at hex
  rw [lowerHex, lowerHex, String.toList_ofList, List.map_map]
  congr 1
  apply List.map_congr_left
  intro char present
  exact (isHexDigit_toLower (hex.2 char present)).2

theorem lowerHex_ne (hex : isHexId text = true) : lowerHex text ≠ "" := by
  intro empty
  have hex' := isHexId_lowerHex hex
  rw [empty] at hex'
  exact absurd hex' (by decide)

theorem GivenId.WellFormed.hex (formed : given.WellFormed) : isHexId given.text = true := by
  cases given with
  | string text => exact formed
  | objectId id => exact formed.1

theorem toObjectId_string (hex : isHexId text = true) :
    toObjectId (.string text) = .ok (lowerHex text) :=
  if_pos hex

end

/-! ## The maps -/

section

variable {access entries : List BranchAccessEntry} {held : List String}
  {permissionId branchId : ObjectId}

theorem mem_union :
    permissionId ∈ access.foldl
        (fun union entry => addAll union entry.permissionIds) held ↔
      permissionId ∈ held ∨ ∃ entry ∈ access, permissionId ∈ entry.permissionIds := by
  induction access generalizing held with
  | nil => simp
  | cons first rest induction =>
    rw [List.foldl_cons, induction, mem_addAll_iff, or_assoc, List.exists_mem_cons_iff]

theorem nodup_union (once : held.Nodup) :
    (access.foldl (fun union entry => addAll union entry.permissionIds) held).Nodup := by
  induction access generalizing held with
  | nil => exact once
  | cons first rest induction => exact induction (nodup_addAll once)

theorem foldl_mergeEntry_of_distinct {before : List BranchAccessEntry}
    (distinct : ((before ++ access).map BranchAccessEntry.branchId).Nodup)
    (once : ∀ entry ∈ access, entry.permissionIds.Nodup) :
    access.foldl mergeEntry before = before ++ access := by
  induction access generalizing before with
  | nil => exact (List.append_nil before).symm
  | cons first rest induction =>
    rw [List.append_cons] at distinct ⊢
    have fresh : (before.any fun held =>
        held.branchId == first.branchId) = false := by
      rw [← Bool.not_eq_true, List.any_eq_true]
      rintro ⟨held, present, same⟩
      have keys := distinct
      rw [List.map_append, List.map_append] at keys
      exact List.disjoint_of_nodup_append keys.of_append_left
        (List.mem_map_of_mem present)
        (List.mem_singleton.mpr (eq_of_beq same))
    have kept : addAll [] first.permissionIds = first.permissionIds :=
      addAll_eq_append (once first List.mem_cons_self)
    rw [List.foldl_cons, mergeEntry, fresh, kept, if_neg Bool.false_ne_true]
    exact induction distinct fun entry member =>
      once entry (List.mem_cons_of_mem first member)

theorem grantsForBranch_of_distinct
    (distinct : (access.map BranchAccessEntry.branchId).Nodup)
    {entry : BranchAccessEntry} (member : entry ∈ access)
    (branch : entry.branchId ≠ "") :
    grantsForBranch access entry.branchId = entry.permissionIds := by
  rw [grantsForBranch, if_neg branch]
  cases found : access.find? fun other =>
      other.branchId == entry.branchId with
  | none =>
    have differs := List.find?_eq_none.mp found entry member
    simp at differs
  | some other =>
    have same := List.find?_some found
    rw [List.inj_on_of_nodup_map distinct (List.mem_of_find?_eq_some found) member (eq_of_beq same)]
    rfl

theorem map_addAll {change : String → String} {added : List String}
    (apart : ∀ first ∈ held ++ added, ∀ second ∈ held ++ added,
      change first = change second → first = second) :
    (addAll held added).map change = addAll (held.map change) (added.map change) := by
  induction added generalizing held with
  | nil => rfl
  | cons first rest induction =>
    have member : first ∈ held ++ first :: rest := by simp
    rw [List.map_cons, addAll, addAll, List.foldl_cons, List.foldl_cons]
    by_cases present : first ∈ held
    · rw [if_pos present, if_pos (List.mem_map_of_mem present)]
      apply induction
      have within : ∀ text ∈ held ++ rest, text ∈ held ++ first :: rest :=
        fun text listed => by
          rcases List.mem_append.mp listed with old | later
          · exact List.mem_append_left _ old
          · exact List.mem_append_right _ (List.mem_cons_of_mem first later)
      exact fun text listed other listed' =>
        apart text (within text listed) other (within other listed')
    · have absent : change first ∉ held.map change := by
        intro listed
        rcases List.mem_map.mp listed with ⟨old, before, same⟩
        exact present (apart old (List.mem_append_left _ before) first member same ▸ before)
      rw [if_neg present, if_neg absent, ← List.map_singleton, ← List.map_append]
      apply induction
      rw [← List.append_cons]
      exact apart

def lowered (entry : BranchAccessEntry) : BranchAccessEntry where
  branchId := lowerHex entry.branchId
  permissionIds := entry.permissionIds.map lowerHex

theorem map_union
    (apart : ∀ first ∈ held ++ access.flatMap BranchAccessEntry.permissionIds,
      ∀ second ∈ held ++ access.flatMap BranchAccessEntry.permissionIds,
        lowerHex first = lowerHex second → first = second) :
    (access.foldl (fun union entry => addAll union entry.permissionIds)
        held).map lowerHex =
      (access.map lowered).foldl
        (fun union entry => addAll union entry.permissionIds)
        (held.map lowerHex) := by
  induction access generalizing held with
  | nil => rfl
  | cons first rest induction =>
    rw [List.flatMap_cons, ← List.append_assoc] at apart
    rw [List.map_cons, List.foldl_cons, List.foldl_cons, induction]
    · rw [map_addAll fun text listed other listed' =>
        apart text (List.mem_append_left _ listed) other (List.mem_append_left _ listed')]
      rfl
    · have within : ∀ text ∈ addAll held first.permissionIds ++
          rest.flatMap BranchAccessEntry.permissionIds,
          text ∈ held ++ first.permissionIds ++ rest.flatMap BranchAccessEntry.permissionIds := by
        intro text listed
        simpa only [List.mem_append, mem_addAll_iff] using listed
      exact fun text listed other listed' =>
        apart text (within text listed) other (within other listed')

theorem castIds_ok {texts : List String}
    (hex : ∀ text ∈ texts, isHexId text = true) :
    castIds texts = .ok (texts.map lowerHex) :=
  mapM_ok fun text member => toObjectId_string (hex text member)

theorem castFields_ok {fields : DerivedGrantFields}
    (access : ∀ held ∈ fields.branchAccess, isHexId held.branchId = true ∧
      ∀ text ∈ held.permissionIds, isHexId text = true)
    (branches : ∀ text ∈ fields.branchIds, isHexId text = true)
    (permissions : ∀ text ∈ fields.permissionIds, isHexId text = true) :
    castFields fields = .ok
      { branchAccess := fields.branchAccess.map lowered
        branchIds := fields.branchIds.map lowerHex
        permissionIds := fields.permissionIds.map lowerHex } := by
  have each : ∀ held ∈ fields.branchAccess, castEntry held = .ok (lowered held) := by
    intro held member
    rw [castEntry, toObjectId_string (access held member).1, castIds_ok (access held member).2]
    rfl
  rw [castFields, mapM_ok each, castIds_ok branches, castIds_ok permissions]
  rfl

end

/-! ## Deriving -/

section

variable {entries : List GivenEntry} {held : BranchAccessEntry} {branchId permissionId : ObjectId}

theorem mem_branchIds :
    branchId ∈ (underTexts entries).branchIds ↔
      ∃ entry ∈ entries, entry.branchId.text = branchId := by
  refine (merged_foldl.branches branchId).trans ?_
  simp [GivenEntry.written]

theorem mem_held (present : held ∈ (underTexts entries).branchAccess) :
    permissionId ∈ held.permissionIds ↔
      ∃ entry ∈ entries, entry.branchId.text = held.branchId ∧
        ∃ given ∈ entry.permissionIds, given.text = permissionId := by
  refine (merged_foldl.grants held present permissionId).trans ?_
  simp [GivenEntry.written]

theorem exists_held {entry : GivenEntry} (member : entry ∈ entries) :
    ∃ held ∈ (underTexts entries).branchAccess, held.branchId = entry.branchId.text :=
  List.mem_map.mp (mem_branchIds.mpr ⟨entry, member, rfl⟩)

theorem mem_permissionIds :
    permissionId ∈ (underTexts entries).permissionIds ↔
      ∃ entry ∈ entries, ∃ given ∈ entry.permissionIds, given.text = permissionId := by
  refine mem_union.trans ((or_iff_right List.not_mem_nil).trans ?_)
  constructor
  · rintro ⟨held, present, holds⟩
    rcases (mem_held present).mp holds with ⟨entry, member, _, grants⟩
    exact ⟨entry, member, grants⟩
  · rintro ⟨entry, member, grants⟩
    rcases exists_held member with ⟨held, present, same⟩
    exact ⟨held, present, (mem_held present).mpr ⟨entry, member, same.symm, grants⟩⟩

theorem hex_of_held (formed : ∀ entry ∈ entries, entry.WellFormed)
    (present : held ∈ (underTexts entries).branchAccess) :
    isHexId held.branchId = true ∧ ∀ text ∈ held.permissionIds, isHexId text = true := by
  constructor
  · rcases mem_branchIds.mp (List.mem_map_of_mem present) with ⟨entry, member, same⟩
    exact same ▸ (formed entry member).1.hex
  · intro text holds
    rcases (mem_held present).mp holds with ⟨entry, member, _, given, listed, rfl⟩
    exact ((formed entry member).2 given listed).hex

theorem hex_of_permissionId (formed : ∀ entry ∈ entries, entry.WellFormed)
    (listed : permissionId ∈ (underTexts entries).permissionIds) :
    isHexId permissionId = true := by
  rcases mem_permissionIds.mp listed with ⟨entry, member, given, grants, rfl⟩
  exact ((formed entry member).2 given grants).hex

def castOf (fields : DerivedGrantFields) : DerivedGrantFields where
  branchAccess := fields.branchAccess.map lowered
  branchIds := fields.branchIds.map lowerHex
  permissionIds := fields.permissionIds.map lowerHex

theorem deriveGrantFields_ok
    (formed : ∀ entry ∈ entries, entry.WellFormed) :
    deriveGrantFields entries = .ok (castOf (underTexts entries)) := by
  apply castFields_ok
  · exact fun held present => hex_of_held formed present
  · intro text listed
    rcases List.mem_map.mp listed with ⟨held, present, rfl⟩
    exact (hex_of_held formed present).1
  · exact fun text listed => hex_of_permissionId formed listed

theorem SpelledAlike.apart (alike : SpelledAlike entries) :
    (∀ first ∈ (underTexts entries).branchIds,
      ∀ second ∈ (underTexts entries).branchIds,
        lowerHex first = lowerHex second → first = second) ∧
    ∀ first ∈ (underTexts entries).permissionIds,
      ∀ second ∈ (underTexts entries).permissionIds,
        lowerHex first = lowerHex second → first = second := by
  constructor
  · intro first listed second listed' same
    rcases mem_branchIds.mp listed with ⟨entry, member, rfl⟩
    rcases mem_branchIds.mp listed' with ⟨other, member', rfl⟩
    exact alike.branches entry member other member' same
  · intro first listed second listed' same
    rcases mem_permissionIds.mp listed with ⟨entry, member, given, grants, rfl⟩
    rcases mem_permissionIds.mp listed' with ⟨other, member', given', grants', rfl⟩
    exact alike.permissions entry member given grants other member' given' grants' same

theorem map_branchId_lowered {access : List BranchAccessEntry} :
    (access.map lowered).map BranchAccessEntry.branchId =
      (access.map BranchAccessEntry.branchId).map lowerHex := by
  rw [List.map_map, List.map_map]
  rfl

theorem distinct_lowered (alike : SpelledAlike entries) :
    (((underTexts entries).branchAccess.map lowered).map BranchAccessEntry.branchId).Nodup := by
  rw [map_branchId_lowered]
  exact merged_foldl.distinct.map_on alike.apart.1

theorem mem_grantsForBranch (formed : ∀ entry ∈ entries, entry.WellFormed)
    (alike : SpelledAlike entries) :
    permissionId ∈ grantsForBranch
        (castOf (underTexts entries)).branchAccess branchId ↔
      ∃ entry ∈ entries, entry.branchId.denotes = branchId ∧
        ∃ given ∈ entry.permissionIds, given.denotes = permissionId := by
  constructor
  · intro granted
    rcases exists_of_mem_grantsForBranch granted with ⟨_, member, rfl, holds⟩
    rcases List.mem_map.mp member with ⟨held, present, rfl⟩
    rcases List.mem_map.mp holds with ⟨text, listed, rfl⟩
    rcases (mem_held present).mp listed with ⟨entry, member, same, given, grants, rfl⟩
    exact ⟨entry, member, congrArg lowerHex same, given, grants, rfl⟩
  · rintro ⟨entry, member, rfl, given, grants, rfl⟩
    rcases exists_held member with ⟨held, present, same⟩
    have holds := (mem_held present).mpr ⟨entry, member, same.symm, given, grants, rfl⟩
    have found := grantsForBranch_of_distinct (distinct_lowered alike)
      (List.mem_map_of_mem present)
      (lowerHex_ne (hex_of_held formed present).1)
    rw [GivenId.denotes, ← same]
    exact found ▸ List.mem_map_of_mem holds

theorem written_ofDerived (entry : BranchAccessEntry) :
    (GivenEntry.ofDerived entry).written = entry := by
  rw [GivenEntry.ofDerived, GivenEntry.written, List.map_map]
  exact congrArg (BranchAccessEntry.mk entry.branchId) (List.map_id _)

theorem castOf_castOf (formed : ∀ entry ∈ entries, entry.WellFormed) :
    castOf (castOf (underTexts entries)) = castOf (underTexts entries) := by
  have twice : ∀ texts : List String,
      (∀ text ∈ texts, isHexId text = true) →
        (texts.map lowerHex).map lowerHex = texts.map lowerHex := by
    intro texts hex
    rw [List.map_map]
    exact List.map_congr_left fun text listed =>
      lowerHex_lowerHex (hex text listed)
  rw [castOf, castOf, twice, twice, List.map_map]
  · congr 1
    apply List.map_congr_left
    intro held present
    have hex := hex_of_held formed present
    rw [Function.comp_apply, lowered, lowered, lowerHex_lowerHex hex.1, twice _ hex.2]
  · exact fun text listed => hex_of_permissionId formed listed
  · intro text listed
    rcases List.mem_map.mp listed with ⟨held, present, rfl⟩
    exact (hex_of_held formed present).1

theorem underTexts_ofDerived (alike : SpelledAlike entries) :
    underTexts ((castOf (underTexts entries)).branchAccess.map
      GivenEntry.ofDerived) = castOf (underTexts entries) := by
  have written : ((castOf (underTexts entries)).branchAccess.map
      GivenEntry.ofDerived).map GivenEntry.written =
      (underTexts entries).branchAccess.map lowered := by
    rw [List.map_map]
    exact (List.map_congr_left fun entry _ => written_ofDerived entry).trans (List.map_id _)
  have among : ∀ held ∈ (underTexts entries).branchAccess,
      ∀ text ∈ held.permissionIds, text ∈ (underTexts entries).permissionIds := by
    intro held present text holds
    rcases (mem_held present).mp holds with ⟨entry, member, _, grants⟩
    exact mem_permissionIds.mpr ⟨entry, member, grants⟩
  have merged : ((underTexts entries).branchAccess.map lowered).foldl
      mergeEntry [] = (underTexts entries).branchAccess.map lowered := by
    apply foldl_mergeEntry_of_distinct (distinct_lowered alike)
    intro entry member
    rcases List.mem_map.mp member with ⟨held, present, rfl⟩
    exact (merged_foldl.once held present).map_on
      fun text holds other holds' =>
        alike.apart.2 text (among held present text holds) other (among held present other holds')
  have union := @map_union (underTexts entries).branchAccess [] <| by
    intro text listed other listed'
    rcases List.mem_flatMap.mp listed with ⟨held, present, holds⟩
    rcases List.mem_flatMap.mp listed' with ⟨held', present', holds'⟩
    exact alike.apart.2 text (among held present text holds) other
      (among held' present' other holds')
  rw [underTexts, written, Staff.deriveGrantFields, merged, map_branchId_lowered]
  exact congrArg (DerivedGrantFields.mk _ _) union.symm

theorem deriveGrantFields_again
    (formed : ∀ entry ∈ entries, entry.WellFormed)
    (alike : SpelledAlike entries) :
    deriveGrantFields ((castOf (underTexts entries)).branchAccess.map
      GivenEntry.ofDerived) = .ok (castOf (underTexts entries)) := by
  have formed' : ∀ entry ∈ (castOf (underTexts entries)).branchAccess.map
      GivenEntry.ofDerived, entry.WellFormed := by
    intro entry member
    rcases List.mem_map.mp member with ⟨_, listed, rfl⟩
    rcases List.mem_map.mp listed with ⟨held, present, rfl⟩
    have hex := hex_of_held formed present
    refine ⟨⟨isHexId_lowerHex hex.1, lowerHex_lowerHex hex.1⟩, ?_⟩
    intro given grants
    rcases List.mem_map.mp grants with ⟨_, listed, rfl⟩
    rcases List.mem_map.mp listed with ⟨text, holds, rfl⟩
    have hex := hex.2 text holds
    exact ⟨isHexId_lowerHex hex, lowerHex_lowerHex hex⟩
  rw [deriveGrantFields_ok formed', underTexts_ofDerived alike, castOf_castOf formed]

/--
The fields that are derived mirror the entries just where every id is written in one
way: the maps know an id by its text.
-/
theorem grantsAreMirrored_iff
    (formed : ∀ entry ∈ entries, entry.WellFormed) :
    (∃ derived, deriveGrantFields entries = .ok derived ∧
      Mirrored entries derived) ↔ SpelledAlike entries := by
  rw [deriveGrantFields_ok formed]
  constructor
  · rintro ⟨_, derives, mirrored⟩
    cases derives
    constructor
    · intro entry member other member' same
      exact List.inj_on_of_nodup_map mirrored.branchesOnce
        (mem_branchIds.mpr ⟨entry, member, rfl⟩)
        (mem_branchIds.mpr ⟨other, member', rfl⟩) same
    · intro entry member given grants entry' member' other grants' same
      exact List.inj_on_of_nodup_map mirrored.permissionsOnce
        (mem_permissionIds.mpr ⟨entry, member, given, grants, rfl⟩)
        (mem_permissionIds.mpr ⟨entry', member', other, grants', rfl⟩) same
  · intro alike
    refine ⟨_, rfl, fun _ _ => mem_grantsForBranch formed alike, ?_, ?_, ?_,
      ?_, deriveGrantFields_again formed alike⟩
    · intro branchId
      simp only [castOf, List.mem_map, mem_branchIds]
      constructor
      · rintro ⟨_, ⟨entry, member, rfl⟩, rfl⟩
        exact ⟨entry, member, rfl⟩
      · rintro ⟨entry, member, rfl⟩
        exact ⟨_, ⟨entry, member, rfl⟩, rfl⟩
    · exact merged_foldl.distinct.map_on alike.apart.1
    · intro permissionId
      simp only [castOf, List.mem_map, mem_permissionIds]
      constructor
      · rintro ⟨_, ⟨entry, member, given, grants, rfl⟩, rfl⟩
        exact ⟨entry, member, given, grants, rfl⟩
      · rintro ⟨entry, member, given, grants, rfl⟩
        exact ⟨_, ⟨entry, member, given, grants, rfl⟩, rfl⟩
    · exact (nodup_union List.nodup_nil).map_on alike.apart.2

end

namespace Sample

def edit : ObjectId := "65f0c0ffee0000000000ab01"

def view : ObjectId := "65f0c0ffee0000000000ab02"

def entries (text : String) : List GivenEntry :=
  [⟨.objectId "65f0c0ffee0000000000abcd", [.objectId edit]⟩,
    ⟨.string text, [.string view, .objectId edit]⟩]

end Sample

/-- A branch that is listed twice, written alike, has the permissions of both. -/
theorem grantsAreMirrored_merged :
    ∃ derived,
      deriveGrantFields (Sample.entries "65f0c0ffee0000000000abcd") = .ok derived ∧
      Mirrored (Sample.entries "65f0c0ffee0000000000abcd") derived :=
  (grantsAreMirrored_iff (by decide +kernel)).mpr ⟨by decide +kernel, by decide +kernel⟩

/-- Written in capitals it is another branch, whose permissions are not found. -/
theorem grantsAreNotMirrored :
    ¬ ∀ entries : List GivenEntry, (∀ entry ∈ entries, entry.WellFormed) →
      ∃ derived, deriveGrantFields entries = .ok derived ∧
        Mirrored entries derived := by
  intro always
  have derives : (deriveGrantFields
      (Sample.entries "65F0C0FFEE0000000000ABCD")).toOption.map
        (fun derived => grantsForBranch derived.branchAccess
          "65f0c0ffee0000000000abcd") = some [Sample.edit] := by
    decide +kernel
  rcases always (Sample.entries "65F0C0FFEE0000000000ABCD")
    (by decide +kernel) with ⟨derived, derives', mirrored⟩
  rw [derives'] at derives
  have found : grantsForBranch derived.branchAccess
      "65f0c0ffee0000000000abcd" = [Sample.edit] := Option.some.inj derives
  have granted := (mirrored.grants "65f0c0ffee0000000000abcd" Sample.view).mpr (by decide +kernel)
  rw [found] at granted
  exact absurd granted (by decide +kernel)

end Lalaba.Users
