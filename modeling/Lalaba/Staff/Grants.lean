import Lalaba.Common
import Mathlib.Data.List.Induction
import Mathlib.Data.List.Nodup

/-!
# The grants of a staff member

An owner grants groups of permissions, branch by branch.  What is stored is a list of
permissions for each branch, with two mirrors derived from it: the branches, and the
permissions of all branches together.
-/

namespace Lalaba.Staff

inductive PermissionGroup where
  | ORDERS
  | INVENTORY
  | SERVICES
  | OTHERS
deriving DecidableEq

def PERMISSION_GROUP_MEMBERS : PermissionGroup → List String
  | .ORDERS =>
    ["order_create", "order_apply_discount", "order_cancel",
      "order_confirm_pickup", "order_update_status"]
  | .INVENTORY =>
    ["inventory_create", "inventory_edit", "inventory_archive",
      "product_create", "product_update", "product_archive"]
  | .SERVICES => ["service_create", "service_edit", "service_archive"]
  | .OTHERS =>
    ["report_view", "report_export", "log_view", "costing_read", "costing_create", "costing_update"]

/-- The elements of a `Set`, in the order in which they were added. -/
def addAll (held added : List String) : List String :=
  added.foldl (fun held value => if value ∈ held then held else held ++ [value]) held

def expandGroups (groups : List PermissionGroup) : List String :=
  groups.foldl (fun names group => addAll names (PERMISSION_GROUP_MEMBERS group)) []

/-! ## Entries -/

/-- A branch, and the permissions granted on it. -/
structure BranchAccessEntry where
  branchId : ObjectId
  permissionIds : List ObjectId
deriving DecidableEq

/-- The three fields, ready for a `$set`. -/
structure DerivedGrantFields where
  branchAccess : List BranchAccessEntry
  branchIds : List ObjectId
  permissionIds : List ObjectId
deriving DecidableEq

def mergeEntry (byBranch : List BranchAccessEntry)
    (entry : BranchAccessEntry) : List BranchAccessEntry :=
  if byBranch.any fun held => held.branchId == entry.branchId then
    byBranch.map fun held =>
      if held.branchId = entry.branchId then
        { held with
          permissionIds := addAll held.permissionIds entry.permissionIds }
      else
        held
  else
    byBranch ++ [{ entry with permissionIds := addAll [] entry.permissionIds }]

def deriveGrantFields (entries : List BranchAccessEntry) :
    DerivedGrantFields :=
  let branchAccess := entries.foldl mergeEntry []
  { branchAccess
    branchIds := branchAccess.map BranchAccessEntry.branchId
    permissionIds := branchAccess.foldl (fun union entry => addAll union entry.permissionIds) [] }

/-- `grantsForBranch`; an empty id is no branch. -/
def grantsForBranch (branchAccess : List BranchAccessEntry)
    (branchId : ObjectId) : List ObjectId :=
  if branchId = "" then []
  else
    ((branchAccess.find? fun entry => entry.branchId == branchId).map
      BranchAccessEntry.permissionIds).getD []

section

variable {held added : List String} {value : String}
  {byBranch entries : List BranchAccessEntry} {entry : BranchAccessEntry}
  {branchId permissionId : ObjectId}

@[simp]
theorem mem_addAll_iff : value ∈ addAll held added ↔ value ∈ held ∨ value ∈ added := by
  induction added generalizing held with
  | nil => simp [addAll]
  | cons first rest induction =>
    rw [addAll, List.foldl_cons]
    have step := @induction (if first ∈ held then held else held ++ [first])
    rw [addAll] at step
    rw [step]
    split
    · rename_i present
      constructor
      · rintro (old | later)
        · exact .inl old
        · exact .inr (List.mem_cons_of_mem _ later)
      · rintro (old | later)
        · exact .inl old
        · rcases List.mem_cons.mp later with rfl | later
          · exact .inl present
          · exact .inr later
    · rw [List.mem_append, List.mem_singleton, List.mem_cons, or_assoc]

theorem exists_of_mem_grantsForBranch
    (granted : permissionId ∈ grantsForBranch byBranch branchId) :
    ∃ entry ∈ byBranch, entry.branchId = branchId ∧ permissionId ∈ entry.permissionIds := by
  rw [grantsForBranch] at granted
  split at granted
  · cases granted
  · cases found : byBranch.find? fun entry => entry.branchId == branchId with
    | none =>
      rw [found] at granted
      cases granted
    | some entry =>
      rw [found] at granted
      have names := List.find?_some found
      exact ⟨entry, List.mem_of_find?_eq_some found, eq_of_beq names, granted⟩

theorem nodup_addAll (once : held.Nodup) : (addAll held added).Nodup := by
  induction added generalizing held with
  | nil => exact once
  | cons first rest induction =>
    rw [addAll, List.foldl_cons]
    apply induction
    split
    · exact once
    · rename_i absent
      exact List.concat_eq_append ▸ once.concat absent

theorem addAll_eq_append (once : (held ++ added).Nodup) : addAll held added = held ++ added := by
  induction added generalizing held with
  | nil => exact (List.append_nil held).symm
  | cons first rest induction =>
    rw [List.append_cons] at once ⊢
    have absent : first ∉ held := fun present =>
      List.disjoint_of_nodup_append once.of_append_left present (List.mem_singleton_self first)
    rw [← induction once, addAll, List.foldl_cons, if_neg absent]
    rfl

/-- What the map holds when these entries have been taken in. -/
structure Merged (entries byBranch : List BranchAccessEntry) : Prop where
  distinct : (byBranch.map BranchAccessEntry.branchId).Nodup
  branches : ∀ branchId,
    branchId ∈ byBranch.map BranchAccessEntry.branchId ↔
      branchId ∈ entries.map BranchAccessEntry.branchId
  once : ∀ held ∈ byBranch, held.permissionIds.Nodup
  grants : ∀ held ∈ byBranch, ∀ permissionId,
    permissionId ∈ held.permissionIds ↔
      ∃ entry ∈ entries, entry.branchId = held.branchId ∧ permissionId ∈ entry.permissionIds

theorem granted_append :
    (∃ other ∈ entries ++ [entry], other.branchId = branchId ∧
        permissionId ∈ other.permissionIds) ↔
      (∃ other ∈ entries, other.branchId = branchId ∧ permissionId ∈ other.permissionIds) ∨
      entry.branchId = branchId ∧ permissionId ∈ entry.permissionIds := by
  simp [or_and_right, exists_or]

/-- The branch of the entry gets its permissions, and the others keep theirs. -/
theorem Merged.step (merged : Merged entries byBranch)
    (entry : BranchAccessEntry) :
    Merged (entries ++ [entry]) (mergeEntry byBranch entry) := by
  rw [mergeEntry]
  split
  · rename_i listed
    rcases List.any_eq_true.mp listed with ⟨first, present, same⟩
    have known : entry.branchId ∈ byBranch.map BranchAccessEntry.branchId :=
      List.mem_map.mpr ⟨first, present, eq_of_beq same⟩
    have keys : (byBranch.map fun held =>
        if held.branchId = entry.branchId then
          { held with
            permissionIds := addAll held.permissionIds entry.permissionIds }
        else
          held).map BranchAccessEntry.branchId =
        byBranch.map BranchAccessEntry.branchId := by
      rw [List.map_map]
      apply List.map_congr_left
      intro held _
      dsimp only [Function.comp_apply]
      split <;> rfl
    refine ⟨keys ▸ merged.distinct, ?_, ?_, ?_⟩
    · intro branchId
      rw [keys, merged.branches, List.map_append, List.mem_append]
      refine ⟨.inl, fun either => either.elim id fun own => ?_⟩
      rw [List.mem_singleton.mp own]
      exact (merged.branches _).mp known
    · intro held member
      rcases List.mem_map.mp member with ⟨old, before, rfl⟩
      split
      · exact nodup_addAll (merged.once old before)
      · exact merged.once old before
    · intro held member permissionId
      rcases List.mem_map.mp member with ⟨old, before, rfl⟩
      rw [granted_append]
      split
      · rename_i own
        rw [mem_addAll_iff, merged.grants old before, ← own]
        simp
      · rename_i apart
        rw [merged.grants old before, or_iff_left]
        exact fun both => apart both.1.symm
  · rename_i fresh
    have new : entry.branchId ∉ byBranch.map BranchAccessEntry.branchId := by
      intro known
      rcases List.mem_map.mp known with ⟨held, present, same⟩
      exact fresh (List.any_eq_true.mpr ⟨held, present, beq_iff_eq.mpr same⟩)
    refine ⟨?_, ?_, ?_, ?_⟩
    · rw [List.map_append]
      exact List.concat_eq_append ▸ merged.distinct.concat new
    · intro branchId
      simp only [List.map_append, List.mem_append, merged.branches, List.map_cons, List.map_nil]
    · intro held member
      rcases List.mem_append.mp member with before | added
      · exact merged.once held before
      · rw [List.mem_singleton.mp added]
        exact nodup_addAll List.nodup_nil
    · intro held member permissionId
      rw [granted_append]
      rcases List.mem_append.mp member with before | added
      · rw [merged.grants held before, or_iff_left]
        rintro ⟨same, _⟩
        exact new (same ▸ List.mem_map_of_mem before)
      · rw [List.mem_singleton.mp added, mem_addAll_iff,
          or_iff_right List.not_mem_nil, or_iff_right]
        · simp
        · rintro ⟨other, earlier, same, _⟩
          exact new ((merged.branches _).mpr (List.mem_map.mpr ⟨other, earlier, same⟩))

theorem merged_foldl : Merged entries (entries.foldl mergeEntry []) := by
  induction entries using List.reverseRecOn with
  | nil => exact ⟨List.nodup_nil, by simp, by simp, by simp⟩
  | append_singleton earlier entry merged =>
    rw [List.foldl_append]
    exact merged.step entry

theorem granted_of_deriveGrantFields
    (granted : permissionId ∈ grantsForBranch (deriveGrantFields entries).branchAccess branchId) :
    ∃ entry ∈ entries, entry.branchId = branchId ∧ permissionId ∈ entry.permissionIds := by
  rcases exists_of_mem_grantsForBranch granted with ⟨held, present, rfl, holds⟩
  exact (merged_foldl.grants held present permissionId).mp holds

end

end Lalaba.Staff
