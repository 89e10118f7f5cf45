import Lalaba.CourierVerification.Service

/-!
# The gate of a courier

Orders are open to a courier whose account shows a live selfie.  Row and account are
written one after the other, so between the calls of one courier the account may be
written late: by a submission whose selfie has been retired or taken down since, or by
a revocation after a retake.  As long as such a write is not the last one, the account
shows the row that is live.
-/

namespace Lalaba.CourierVerification

open Foundation
open Foundation.Configuration

/-! ## Rows -/

def Store.liveSelfies (courierUid : Uid) (store : Store) :
    List CourierSelfie :=
  store.selfies.filter fun row =>
    row.courierUid == courierUid && row.status == .ACTIVE

/--
The account of a courier is open exactly when one of his rows is live; it shows that
row then, and the image is in the bucket.
-/
structure Store.Gated (courierUid : Uid) (store : Store) : Prop where
  status :
    (store.accounts courierUid).selfieStatus = some .ACTIVE ↔
      (store.liveSelfies courierUid).length = 1
  photo : ∀ row ∈ store.liveSelfies courierUid,
    (store.accounts courierUid).photoUrl = some row.publicUrl
  stored : ∀ row ∈ store.liveSelfies courierUid,
    row.storageKey ∈ store.uploaded ∧ row.storageKey ∉ store.deleted

/-- Two documents of one image. -/
structure CourierSelfie.SameImage (row selfie : CourierSelfie) : Prop where
  id : row._id = selfie._id
  courierUid : row.courierUid = selfie.courierUid
  storageKey : row.storageKey = selfie.storageKey
  publicUrl : row.publicUrl = selfie.publicUrl

namespace Store

def Holds (store : Store) (selfie : CourierSelfie) : Prop :=
  ∃ row ∈ store.selfies, row.SameImage selfie

def Dead (store : Store) (storageKey : String) : Prop :=
  ∃ row ∈ store.selfies, row.storageKey = storageKey ∧ row.status ≠ .ACTIVE

def Fresh (store : Store) (storageKey : String) : Prop :=
  storageKey ∈ store.uploaded ∧ storageKey ∉ store.selfies.map CourierSelfie.storageKey

/-- What is true of the rows and of the bucket between any two steps. -/
structure Good (store : Store) : Prop where
  ids : (store.selfies.map CourierSelfie._id).Nodup
  keys : (store.selfies.map CourierSelfie.storageKey).Nodup
  kept : ∀ row ∈ store.selfies, row.storageKey ∈ store.uploaded
  removed : ∀ storageKey ∈ store.deleted, store.Dead storageKey
  single : ∀ courierUid, (store.liveSelfies courierUid).length ≤ 1

variable {store : Store} {row selfie : CourierSelfie} {courierUid : Uid}

theorem mem_liveSelfies :
    row ∈ store.liveSelfies courierUid ↔
      row ∈ store.selfies ∧ row.courierUid = courierUid ∧ row.status = .ACTIVE := by
  rw [liveSelfies, List.mem_filter, Bool.and_eq_true, beq_iff_eq, beq_iff_eq]

theorem activeSelfie_eq : store.activeSelfie courierUid = (store.liveSelfies courierUid).head? := by
  rw [activeSelfie, liveSelfies, List.head?_filter]

theorem mem_of_activeSelfie
    (active : store.activeSelfie courierUid = some row) :
    row ∈ store.liveSelfies courierUid := by
  rw [activeSelfie_eq] at active
  exact List.mem_of_head? active

theorem Good.liveSelfies_of_active (good : store.Good)
    (active : store.activeSelfie courierUid = some row) :
    store.liveSelfies courierUid = [row] := by
  have single := good.single courierUid
  rw [activeSelfie_eq] at active
  cases listed : store.liveSelfies courierUid with
  | nil =>
    rw [listed] at active
    cases active
  | cons first rest =>
    rw [listed] at active single
    cases active
    cases rest with
    | nil => rfl
    | cons _ _ => simp at single

theorem liveSelfies_of_inactive
    (inactive : store.activeSelfie courierUid = none) :
    store.liveSelfies courierUid = [] := by
  rw [activeSelfie_eq, List.head?_eq_none_iff] at inactive
  exact inactive

theorem Good.eq_of_id (good : store.Good) (member : row ∈ store.selfies)
    (member' : selfie ∈ store.selfies) (same : row._id = selfie._id) :
    row = selfie :=
  List.inj_on_of_nodup_map good.ids member member' same

theorem Good.eq_of_key (good : store.Good) (member : row ∈ store.selfies)
    (member' : selfie ∈ store.selfies)
    (same : row.storageKey = selfie.storageKey) :
    row = selfie :=
  List.inj_on_of_nodup_map good.keys member member' same

theorem Good.stored (good : store.Good)
    (live : row ∈ store.liveSelfies courierUid) :
    row.storageKey ∈ store.uploaded ∧ row.storageKey ∉ store.deleted := by
  rcases mem_liveSelfies.mp live with ⟨member, _, active⟩
  refine ⟨good.kept row member, ?_⟩
  intro deleted
  rcases good.removed _ deleted with ⟨other, member', same, dead⟩
  cases good.eq_of_key member' member same
  exact dead active

/-! ### What a write does to the rows -/

def Evolves (store after : Store) : Prop :=
  ∀ row ∈ store.selfies, ∃ row' ∈ after.selfies,
    row'.SameImage row ∧ (row.status ≠ .ACTIVE → row'.status ≠ .ACTIVE)

variable {after : Store} {storageKey : String}

theorem Evolves.of_subset (kept : store.selfies ⊆ after.selfies) :
    store.Evolves after :=
  fun row member => ⟨row, kept member, ⟨rfl, rfl, rfl, rfl⟩, id⟩

theorem Holds.evolves (holds : store.Holds selfie)
    (evolves : store.Evolves after) : after.Holds selfie := by
  rcases holds with ⟨row, member, same⟩
  rcases evolves row member with ⟨row', member', same', _⟩
  exact
    ⟨row', member',
      { id := same'.id.trans same.id
        courierUid := same'.courierUid.trans same.courierUid
        storageKey := same'.storageKey.trans same.storageKey
        publicUrl := same'.publicUrl.trans same.publicUrl }⟩

theorem Dead.evolves (dead : store.Dead storageKey)
    (evolves : store.Evolves after) : after.Dead storageKey := by
  rcases dead with ⟨row, member, same, retired⟩
  rcases evolves row member with ⟨row', member', same', stays⟩
  exact ⟨row', member', same'.storageKey.trans same, stays retired⟩

def Retiring (change : CourierSelfie → CourierSelfie) : Prop :=
  ∀ row, (change row).SameImage row ∧ (change row).status ≠ .ACTIVE

theorem retiring_superseded : Retiring CourierSelfie.superseded :=
  fun _ => ⟨⟨rfl, rfl, rfl, rfl⟩, nofun⟩

theorem retiring_revoked {reviewerUid : Uid} {now : Instant}
    {reason : String} :
    Retiring (CourierSelfie.revoked reviewerUid now reason) :=
  fun _ => ⟨⟨rfl, rfl, rfl, rfl⟩, nofun⟩

section

variable {change : CourierSelfie → CourierSelfie} {id : ObjectId}

theorem updateSelfie_evolves (retiring : Retiring change) :
    store.Evolves (store.updateSelfie id change) := by
  intro row member
  refine ⟨_, List.mem_map_of_mem member, ?_⟩
  split
  · exact ⟨(retiring row).1, fun _ => (retiring row).2⟩
  · exact ⟨⟨rfl, rfl, rfl, rfl⟩, fun dead => dead⟩

theorem map_updateSelfie {Value : Type} {field : CourierSelfie → Value}
    (keeps : ∀ row, field (change row) = field row) :
    (store.updateSelfie id change).selfies.map field =
      store.selfies.map field := by
  rw [updateSelfie, List.map_map]
  apply List.map_congr_left
  intro row _
  rw [Function.comp_apply]
  split
  · exact keeps row
  · rfl

theorem liveSelfies_updateSelfie (retiring : Retiring change) :
    (store.updateSelfie id change).liveSelfies courierUid =
      (store.liveSelfies courierUid).filter fun row => row._id ≠ id := by
  rw [liveSelfies, liveSelfies, updateSelfie]
  induction store.selfies with
  | nil => rfl
  | cons row rest induction =>
    rw [List.map_cons, List.filter_cons, List.filter_cons, induction]
    by_cases here : row._id = id
    · have dead : ((change row).status == .ACTIVE) = false :=
        beq_eq_false_iff_ne.mpr (retiring row).2
      rw [if_pos here, dead, Bool.and_false, if_neg Bool.false_ne_true]
      split
      · rw [List.filter_cons, if_neg (by simp [here])]
      · rfl
    · rw [if_neg here]
      split
      · rw [List.filter_cons, if_pos (by simp [here])]
      · rfl

theorem Good.updateSelfie (good : store.Good)
    (retiring : Retiring change) : (store.updateSelfie id change).Good where
  ids := by
    rw [map_updateSelfie fun row => (retiring row).1.id]
    exact good.ids
  keys := by
    rw [map_updateSelfie fun row => (retiring row).1.storageKey]
    exact good.keys
  kept := by
    intro row member
    have kept : row.storageKey ∈
        (store.updateSelfie id change).selfies.map
          CourierSelfie.storageKey :=
      List.mem_map_of_mem member
    rw [map_updateSelfie fun row => (retiring row).1.storageKey] at kept
    rcases List.mem_map.mp kept with ⟨before, member', same⟩
    exact same ▸ good.kept before member'
  removed := fun storageKey deleted =>
    (good.removed storageKey deleted).evolves (updateSelfie_evolves retiring)
  single := by
    intro courierUid
    rw [liveSelfies_updateSelfie retiring]
    exact (List.length_filter_le _ _).trans (good.single courierUid)

theorem dead_updateSelfie (retiring : Retiring change)
    (holds : store.Holds selfie) :
    (store.updateSelfie selfie._id change).Dead selfie.storageKey := by
  rcases holds with ⟨row, member, same⟩
  refine ⟨change row, ?_, ?_, (retiring row).2⟩
  · refine List.mem_map.mpr ⟨row, member, ?_⟩
    rw [if_pos same.id]
  · exact (retiring row).1.storageKey.trans same.storageKey

theorem activeSelfie_of_spared (retiring : Retiring change)
    (spared : ∀ row ∈ store.liveSelfies courierUid, row._id ≠ id) :
    (store.updateSelfie id change).activeSelfie courierUid =
      store.activeSelfie courierUid := by
  rw [activeSelfie_eq, activeSelfie_eq, liveSelfies_updateSelfie retiring, List.filter_eq_self.mpr]
  intro row live
  exact decide_eq_true (spared row live)

theorem Good.retires (good : store.Good) (retiring : Retiring change)
    (holds : store.Holds selfie) :
    (store.updateSelfie selfie._id change).activeSelfie courierUid =
        store.activeSelfie courierUid ∨
      selfie.courierUid = courierUid ∧
        (store.updateSelfie selfie._id change).activeSelfie courierUid =
          none := by
  rcases holds with ⟨own, member, same⟩
  cases active : store.activeSelfie courierUid with
  | none =>
    left
    rw [activeSelfie_of_spared retiring, active]
    intro row live
    rw [liveSelfies_of_inactive active] at live
    cases live
  | some row =>
    have live := good.liveSelfies_of_active active
    have found := mem_liveSelfies.mp (mem_of_activeSelfie active)
    by_cases here : row._id = selfie._id
    · right
      cases good.eq_of_id found.1 member (here.trans same.id.symm)
      refine ⟨same.courierUid.symm.trans found.2.1, ?_⟩
      rw [activeSelfie_eq, liveSelfies_updateSelfie retiring, live,
        List.filter_cons, if_neg (by simp [here])]
      rfl
    · left
      rw [activeSelfie_of_spared retiring, active]
      intro other live'
      rw [live] at live'
      cases List.mem_singleton.mp live'
      exact here

end

/-! ### The other writes -/

theorem Good.updateAccount {uid : Uid} {account : Account}
    (good : store.Good) : (store.updateAccount uid account).Good where
  ids := good.ids
  keys := good.keys
  kept := good.kept
  removed := good.removed
  single := good.single

variable {answers : Bool}

theorem Good.deleteObject (good : store.Good) (dead : store.Dead storageKey) :
    (store.deleteObject answers storageKey).Good := by
  rw [Store.deleteObject]
  split
  · constructor
    · exact good.ids
    · exact good.keys
    · exact good.kept
    · intro other deleted
      rcases List.mem_cons.mp deleted with rfl | deleted
      · exact dead
      · exact good.removed other deleted
    · exact good.single
  · exact good

theorem deleteObject_selfies : (store.deleteObject answers storageKey).selfies = store.selfies := by
  rw [deleteObject]
  split <;> rfl

theorem deleteObject_uploaded :
    (store.deleteObject answers storageKey).uploaded =
      store.uploaded := by
  rw [deleteObject]
  split <;> rfl

theorem deleteObject_accounts :
    (store.deleteObject answers storageKey).accounts =
      store.accounts := by
  rw [deleteObject]
  split <;> rfl

theorem liveSelfies_insertSelfie :
    (store.insertSelfie row).liveSelfies courierUid =
      store.liveSelfies courierUid ++
        if row.courierUid = courierUid ∧ row.status = .ACTIVE then [row]
        else [] := by
  rw [liveSelfies, insertSelfie, List.filter_append,
    List.filter_singleton, liveSelfies, Bool.cond_eq_ite]
  simp only [Bool.and_eq_true, beq_iff_eq]

theorem insertSelfie_evolves : store.Evolves (store.insertSelfie row) :=
  .of_subset (List.subset_append_left _ _)

theorem Good.insertSelfie (good : store.Good)
    (fresh : store.Fresh row.storageKey)
    (unused : row._id ∉ store.selfies.map CourierSelfie._id)
    (alone : store.activeSelfie row.courierUid = none) :
    (store.insertSelfie row).Good where
  ids := by
    rw [Store.insertSelfie, List.map_append, List.map_singleton]
    exact good.ids.append (List.nodup_singleton _) (List.disjoint_singleton.mpr unused)
  keys := by
    rw [Store.insertSelfie, List.map_append, List.map_singleton]
    exact good.keys.append (List.nodup_singleton _) (List.disjoint_singleton.mpr fresh.2)
  kept := by
    intro other member
    rcases List.mem_append.mp member with member | member
    · exact good.kept other member
    · cases List.mem_singleton.mp member
      exact fresh.1
  removed := fun storageKey deleted =>
    (good.removed storageKey deleted).evolves insertSelfie_evolves
  single := by
    intro courierUid
    rw [liveSelfies_insertSelfie]
    split
    · rename_i here
      rw [← here.1, liveSelfies_of_inactive alone]
      exact Nat.le_refl 1
    · rw [List.append_nil]
      exact good.single courierUid

theorem activeSelfie_insertSelfie
    (alone : store.activeSelfie courierUid = none) :
    (store.insertSelfie row).activeSelfie courierUid =
      if row.courierUid = courierUid ∧ row.status = .ACTIVE then some row
      else none := by
  rw [activeSelfie_eq, liveSelfies_insertSelfie, liveSelfies_of_inactive alone]
  split <;> rfl

theorem activeSelfie_insertSelfie_of_ne
    (other : row.courierUid ≠ courierUid) :
    (store.insertSelfie row).activeSelfie courierUid =
      store.activeSelfie courierUid := by
  rw [activeSelfie_eq, activeSelfie_eq, liveSelfies_insertSelfie,
    if_neg fun same => other same.1, List.append_nil]

end Store

/-! ## Calls -/

/-- What a call in flight may count on. -/
def Sound (store : Store) : Call → Prop
  | .upload .. => True
  | .find upload => store.Fresh upload.storageKey
  | .retire upload previous =>
    store.Fresh upload.storageKey ∧ store.Holds previous ∧ previous.courierUid = upload.courierUid
  | .insert upload previous =>
    store.Fresh upload.storageKey ∧ ∀ row, previous = some row → store.Dead row.storageKey
  | .present created previous =>
    store.Holds created ∧ ∀ row, previous = some row → store.Dead row.storageKey
  | .revoke selfie _ _ =>
    store.Holds selfie ∧ (selfie.status ≠ .ACTIVE → store.Dead selfie.storageKey)
  | .lock selfie _ => store.Dead selfie.storageKey
  | .discard storageKey => store.Dead storageKey

def Call.key : Call → Option String
  | .find image => some image.storageKey
  | .retire image _ => some image.storageKey
  | .insert image _ => some image.storageKey
  | _ => none

def Store.Keeps (store after : Store) (call : Call) : Prop :=
  store.Evolves after ∧ store.uploaded ⊆ after.uploaded ∧
    ∀ storageKey ∈ after.selfies.map CourierSelfie.storageKey,
      storageKey ∈ store.selfies.map CourierSelfie.storageKey ∨ call.key = some storageKey

variable {store after : Store} {call other : Call}

/-- What a step of a call can be. -/
inductive Resumed (urlOf : String → String) (tick : Tick)
    (store : Store) : Call → Store → Option Call → Prop where
  | uploaded (courierUid : Uid) (submission : Submission)
      (storageKey : String) (unused : storageKey ∉ store.uploaded) :
      Resumed urlOf tick store (.upload courierUid submission)
        { store with uploaded := storageKey :: store.uploaded }
        (some (.find
          { courierUid
            submission
            storageKey
            publicUrl := urlOf storageKey }))
  | unanswered (courierUid : Uid) (submission : Submission) :
      Resumed urlOf tick store (.upload courierUid submission) store none
  | found (upload : Upload) (previous : CourierSelfie)
      (active : store.activeSelfie upload.courierUid = some previous) :
      Resumed urlOf tick store (.find upload) store (some (.retire upload previous))
  | foundNone (upload : Upload)
      (inactive : store.activeSelfie upload.courierUid = none) :
      Resumed urlOf tick store (.find upload) store (some (.insert upload none))
  | retired (upload : Upload) (previous : CourierSelfie) :
      Resumed urlOf tick store (.retire upload previous)
        (store.updateSelfie previous._id CourierSelfie.superseded)
        (some (.insert upload (some previous)))
  | refused (upload : Upload) (previous : Option CourierSelfie)
      (active : store.activeSelfie upload.courierUid ≠ none) :
      Resumed urlOf tick store (.insert upload previous) store none
  | inserted (upload : Upload) (previous : Option CourierSelfie)
      (unused : tick.drawn ∉ store.selfies.map CourierSelfie._id)
      (inactive : store.activeSelfie upload.courierUid = none) :
      Resumed urlOf tick store (.insert upload previous)
        (store.insertSelfie (upload.selfie tick.drawn tick.now previous))
        (some (.present (upload.selfie tick.drawn tick.now previous) previous))
  | presented (created : CourierSelfie)
      (previous : Option CourierSelfie) :
      Resumed urlOf tick store (.present created previous)
        (store.updateAccount created.courierUid created.opened)
        (previous.map fun row => .discard row.storageKey)
  | revokedLive (selfie : CourierSelfie) (reviewerUid : Uid)
      (reason : String) (live : selfie.status = .ACTIVE) :
      Resumed urlOf tick store (.revoke selfie reviewerUid reason)
        (store.updateSelfie selfie._id (CourierSelfie.revoked reviewerUid tick.now reason))
        (some (.lock selfie reason))
  | revokedDead (selfie : CourierSelfie) (reviewerUid : Uid)
      (reason : String) (dead : selfie.status ≠ .ACTIVE) :
      Resumed urlOf tick store (.revoke selfie reviewerUid reason)
        (store.updateSelfie selfie._id (CourierSelfie.revoked reviewerUid tick.now reason))
        (some (.discard selfie.storageKey))
  | locked (selfie : CourierSelfie) (reason : String) :
      Resumed urlOf tick store (.lock selfie reason)
        (store.updateAccount selfie.courierUid (locked reason))
        (some (.discard selfie.storageKey))
  | discarded (storageKey : String) :
      Resumed urlOf tick store (.discard storageKey)
        (store.deleteObject tick.answers storageKey) none

theorem resumed_of_resume {urlOf : String → String} {tick : Tick}
    {next : Option Call}
    (resumes : resume urlOf tick call store = some (after, next)) :
    Resumed urlOf tick store call after next := by
  cases call with
  | upload courierUid submission =>
    simp only [resume] at resumes
    split at resumes
    · cases resumes
    · rename_i unused
      split at resumes
      · cases resumes
        exact .uploaded courierUid submission _ unused
      · cases resumes
        exact .unanswered courierUid submission
  | find upload =>
    simp only [resume] at resumes
    split at resumes
    · rename_i previous active
      cases resumes
      exact .found upload previous active
    · rename_i inactive
      cases resumes
      exact .foundNone upload inactive
  | retire upload previous =>
    cases resumes
    exact .retired upload previous
  | insert upload previous =>
    simp only [resume] at resumes
    split at resumes
    · cases resumes
    · rename_i unused
      split at resumes
      · rename_i active
        cases resumes
        exact .refused upload previous (Option.isSome_iff_ne_none.mp active)
      · rename_i inactive
        cases resumes
        exact .inserted upload previous unused (Option.not_isSome_iff_eq_none.mp inactive)
  | present created previous =>
    cases resumes
    exact .presented created previous
  | revoke selfie reviewerUid reason =>
    simp only [resume] at resumes
    split at resumes
    · rename_i live
      cases resumes
      exact .revokedLive selfie reviewerUid reason live
    · rename_i dead
      cases resumes
      exact .revokedDead selfie reviewerUid reason dead
  | lock selfie reason =>
    cases resumes
    exact .locked selfie reason
  | discard storageKey =>
    cases resumes
    exact .discarded storageKey

theorem Sound.keeps (sound : Sound store other)
    (keeps : store.Keeps after call)
    (apart : ∀ storageKey, other.key = some storageKey → call.key ≠ some storageKey) :
    Sound after other := by
  rcases keeps with ⟨evolves, uploaded, keys⟩
  have fresh : ∀ storageKey, other.key = some storageKey →
      store.Fresh storageKey → after.Fresh storageKey := by
    intro storageKey named fresh
    refine ⟨uploaded fresh.1, ?_⟩
    intro member
    rcases keys storageKey member with old | own
    · exact fresh.2 old
    · exact apart storageKey named own
  have dead : ∀ previous : Option CourierSelfie,
      (∀ row, previous = some row → store.Dead row.storageKey) →
      ∀ row, previous = some row → after.Dead row.storageKey :=
    fun _ dead row same => (dead row same).evolves evolves
  cases other with
  | upload _ _ => trivial
  | find upload => exact fresh _ rfl sound
  | retire upload previous =>
    exact ⟨fresh _ rfl sound.1, sound.2.1.evolves evolves, sound.2.2⟩
  | insert upload previous =>
    exact ⟨fresh _ rfl sound.1, dead _ sound.2⟩
  | present created previous =>
    exact ⟨sound.1.evolves evolves, dead _ sound.2⟩
  | revoke selfie _ _ =>
    exact ⟨sound.1.evolves evolves,
      fun retired => (sound.2 retired).evolves evolves⟩
  | lock | discard => exact Store.Dead.evolves sound evolves

section

variable {urlOf : String → String} {tick : Tick} {next : Option Call}

theorem Resumed.keeps (resumed : Resumed urlOf tick store call after next) :
    store.Keeps after call := by
  have same : store.Keeps store call :=
    ⟨.of_subset (List.Subset.refl _), List.Subset.refl _,
      fun _ member => .inl member⟩
  have retires : ∀ (id : ObjectId) (change : CourierSelfie → CourierSelfie),
      Store.Retiring change →
      store.Keeps (store.updateSelfie id change) call := by
    intro id change retiring
    refine ⟨Store.updateSelfie_evolves retiring, List.Subset.refl _, ?_⟩
    intro storageKey member
    rw [Store.map_updateSelfie fun row => (retiring row).1.storageKey] at member
    exact .inl member
  cases resumed with
  | uploaded _ _ storageKey _ =>
    exact ⟨same.1, List.subset_cons_self _ _, same.2.2⟩
  | unanswered | found | foundNone | refused | presented | locked => exact same
  | retired _ _ => exact retires _ _ Store.retiring_superseded
  | inserted upload previous _ _ =>
    refine ⟨Store.insertSelfie_evolves, List.Subset.refl _, ?_⟩
    intro storageKey member
    rw [Store.insertSelfie, List.map_append] at member
    rcases List.mem_append.mp member with old | own
    · exact .inl old
    · cases List.mem_singleton.mp own
      exact .inr rfl
  | revokedLive | revokedDead => exact retires _ _ Store.retiring_revoked
  | discarded storageKey =>
    refine ⟨?_, ?_, ?_⟩
    · apply Store.Evolves.of_subset
      rw [Store.deleteObject_selfies]
      exact List.Subset.refl _
    · rw [Store.deleteObject_uploaded]
      exact List.Subset.refl _
    · intro key member
      rw [Store.deleteObject_selfies] at member
      exact .inl member

theorem Resumed.good (resumed : Resumed urlOf tick store call after next)
    (good : store.Good) (sound : Sound store call) : after.Good := by
  cases resumed with
  | uploaded _ _ storageKey _ =>
    exact
      { ids := good.ids
        keys := good.keys
        kept := fun row member =>
          List.mem_cons_of_mem _ (good.kept row member)
        removed := good.removed
        single := good.single }
  | unanswered | found | foundNone | refused => exact good
  | retired _ _ => exact good.updateSelfie Store.retiring_superseded
  | inserted upload previous unused inactive =>
    exact good.insertSelfie sound.1 unused inactive
  | presented | locked => exact good.updateAccount
  | revokedLive | revokedDead => exact good.updateSelfie Store.retiring_revoked
  | discarded storageKey => exact good.deleteObject sound

/-- A call goes on with what it has established. -/
theorem Resumed.sound (resumed : Resumed urlOf tick store call after next)
    (good : store.Good) (sound : Sound store call) :
    ∀ call', next = some call' → Sound after call' := by
  have evolves := resumed.keeps.1
  intro call' follows
  cases resumed with
  | uploaded courierUid submission storageKey unused =>
    cases follows
    refine ⟨List.mem_cons_self, ?_⟩
    intro member
    rcases List.mem_map.mp member with ⟨row, member', rfl⟩
    exact unused (good.kept row member')
  | unanswered | refused | discarded => cases follows
  | found upload previous active =>
    cases follows
    have live := Store.mem_of_activeSelfie active
    rcases Store.mem_liveSelfies.mp live with ⟨member, own, _⟩
    exact ⟨sound, ⟨previous, member, ⟨rfl, rfl, rfl, rfl⟩⟩, own⟩
  | foundNone upload inactive =>
    cases follows
    refine ⟨sound, ?_⟩
    intro row absent
    cases absent
  | retired upload previous =>
    cases follows
    rcases sound with ⟨fresh, holds, own⟩
    refine ⟨⟨fresh.1, ?_⟩, ?_⟩
    · rw [Store.map_updateSelfie fun row =>
        (Store.retiring_superseded row).1.storageKey]
      exact fresh.2
    · intro row same
      cases same
      exact Store.dead_updateSelfie Store.retiring_superseded holds
  | inserted upload previous unused inactive =>
    cases follows
    refine ⟨⟨_, List.mem_append_right _ (List.mem_singleton_self _), ⟨rfl, rfl, rfl, rfl⟩⟩, ?_⟩
    intro row same
    exact (sound.2 row same).evolves evolves
  | presented created previous =>
    rcases Option.map_eq_some_iff.mp follows with ⟨row, same, rfl⟩
    exact sound.2 row same
  | revokedLive | revokedDead =>
    cases follows
    exact Store.dead_updateSelfie Store.retiring_revoked sound.1
  | locked selfie _ =>
    cases follows
    exact Store.Dead.evolves sound evolves

end

/-! ## Interleavings -/

abbrev Calls := Configuration Store Call

section

variable {urlOf : String → String}

/-- The rows are in order, every call is sound, and no two hold one key. -/
structure Ordered (configuration : Calls) : Prop where
  sited : Service.Invariant Store.Good Sound configuration
  distinct : configuration.Distinct Call.key

variable {store : Store} {call : Call}

theorem sound_entered {request : Request}
    (enters : enter request store = some call) :
    Sound store call ∧ call.key = none := by
  cases request with
  | submitSelfie courierUid submission =>
    cases enters
    exact ⟨trivial, rfl⟩
  | revokeSelfie selfieId reviewerUid reason =>
    simp only [enter] at enters
    split at enters
    · cases enters
    · rename_i selfie may
      cases enters
      refine ⟨?_, rfl⟩
      simp only [revocable] at may
      split at may
      · cases may
      · split at may
        · cases may
        · rename_i found
          split at may
          · cases may
          · cases may
            have member := List.mem_of_find?_eq_some found
            exact ⟨⟨selfie, member, ⟨rfl, rfl, rfl, rfl⟩⟩,
              fun dead => ⟨selfie, member, rfl, dead⟩⟩

theorem obligations : (verification urlOf).Obligations (fun configuration =>
      configuration.Distinct Call.key) (fun _ _ => True) Store.Good
      Sound where
  entered := fun _ _ _ _ enters => (sound_entered enters).1
  resumed := by
    intro configuration index tick call store next _ _ _ good sound resumes
    have resumed := resumed_of_resume resumes
    exact ⟨resumed.good good sound, resumed.sound good sound⟩
  stable := by
    intro configuration index tick call store next place other distinct _
      waits waits' elsewhere _ _ sound resumes
    apply sound.keeps (resumed_of_resume resumes).keeps
    intro storageKey named named'
    exact elsewhere (distinct place index other call storageKey waits' waits named named')

theorem Resumed.key {tick : Tick} {after : Store} {next : Option Call}
    (resumed : Resumed urlOf tick store call after next) {call' : Call}
    {held : String} (follows : next = some call')
    (holds : call'.key = some held) :
    call.key = some held ∨ held ∉ store.uploaded := by
  cases resumed with
  | uploaded _ _ storageKey unused =>
    cases follows
    cases holds
    exact .inr unused
  | unanswered | refused | discarded => cases follows
  | found | foundNone | retired =>
    cases follows
    exact .inl holds
  | inserted | revokedLive | revokedDead | locked =>
    cases follows
    cases holds
  | presented _ _ =>
    rcases Option.map_eq_some_iff.mp follows with ⟨row, same, rfl⟩
    cases holds

theorem Sound.uploaded {held : String} (sound : Sound store call)
    (holds : call.key = some held) :
    held ∈ store.uploaded := by
  cases call with
  | find upload =>
    cases holds
    exact sound.1
  | retire | insert =>
    cases holds
    exact sound.1.1
  | upload | present | revoke | lock | discard => cases holds

theorem Ordered.step {configuration after : Calls}
    {move : Move Request Tick} (ordered : Ordered configuration)
    (stepped : (verification urlOf).system.step move configuration = some after) :
    Ordered after where
  sited := obligations.step ordered.distinct ordered.sited trivial stepped
  distinct := by
    cases Service.stepped_of_step stepped with
    | entered request call enters =>
      exact ordered.distinct.entered (sound_entered enters).2
    | resumed index tick call store next waits resumes =>
      apply ordered.distinct.resumed waits
      intro call' held follows holds
      rcases (resumed_of_resume resumes).key follows holds with
        own | unused
      · exact .inl own
      · right
        intro place other waits' named
        exact unused ((ordered.sited.sound place other waits').uploaded named)

theorem ordered_start : Ordered (.start .empty) where
  sited :=
    Service.invariant_start
      { ids := List.nodup_nil
        keys := List.nodup_nil
        kept := fun _ member => (List.not_mem_nil member).elim
        removed := fun _ member => (List.not_mem_nil member).elim
        single := fun _ => Nat.zero_le 1 }
  distinct := fun _ _ _ _ _ waits => (not_waits_start waits).elim

theorem ordered_of_reaches
    {admissible : Calls → Move Request Tick → Prop}
    {configuration : Calls}
    (reached : (verification urlOf).system.Reaches admissible (.start .empty) configuration) :
    Ordered configuration :=
  reached.invariant Ordered ordered_start
    fun _ _ _ ordered _ stepped => ordered.step stepped

end

/-! ## The account -/

def Call.mends (courierUid : Uid) (live : Option ObjectId) : Call → Bool
  | .find image => image.courierUid == courierUid && live.isNone
  | .retire image _ => image.courierUid == courierUid && live.isNone
  | .insert image _ => image.courierUid == courierUid && live.isNone
  | .present created _ =>
    created.courierUid == courierUid && live == some created._id
  | .revoke selfie _ _ =>
    selfie.courierUid == courierUid && live.isNone && selfie.status == .ACTIVE
  | .lock selfie _ => selfie.courierUid == courierUid && live.isNone
  | _ => false

def Call.shows (courierUid : Uid) : Call → Option (Option ObjectId)
  | .present created _ =>
    if created.courierUid = courierUid then some (some created._id)
    else none
  | .lock selfie _ =>
    if selfie.courierUid = courierUid then some none else none
  | _ => none

def Store.live (courierUid : Uid) (store : Store) : Option ObjectId :=
  (store.activeSelfie courierUid).map CourierSelfie._id

def awaited (courierUid : Uid) (configuration : Calls) : Bool :=
  configuration.someCall (Call.mends courierUid (configuration.store.live courierUid))

/--
The account is written as the live row asks, or a call that will write it so is still
to come.
-/
def upToDate (courierUid : Uid) (configuration : Calls) :
    Move Request Tick → Bool
  | .enter _ => true
  | .resume index _ =>
    match configuration.calls[index]? with
    | some (some call) =>
      match call.shows courierUid with
      | some shown =>
        configuration.store.live courierUid == shown || awaited courierUid configuration
      | none => true
    | _ => true

def Store.Shown (courierUid : Uid) (store : Store) : Prop :=
  match store.activeSelfie courierUid with
  | some live =>
    (store.accounts courierUid).selfieStatus = some .ACTIVE ∧
      (store.accounts courierUid).photoUrl = some live.publicUrl
  | none => (store.accounts courierUid).selfieStatus ≠ some .ACTIVE

/--
What a step does for an account: the call goes on to write it, or has written it as
it should be, or leaves the live row and, unless it writes late, the account.
-/
inductive Settles (courierUid : Uid) (store after : Store) (call : Call)
    (next : Option Call) : Prop where
  | goesOn (call' : Call) (follows : next = some call')
      (mends : call'.mends courierUid (after.live courierUid) = true)
  | shows (shown : after.Shown courierUid)
  | leaves
      (rows : after.activeSelfie courierUid = store.activeSelfie courierUid)
      (idle : call.mends courierUid (store.live courierUid) = false)
      (late : after.accounts courierUid = store.accounts courierUid ∨
        ∃ shown, call.shows courierUid = some shown ∧ shown ≠ store.live courierUid)

section

variable {courierUid : Uid} {urlOf : String → String} {tick : Tick}
  {store after : Store} {call : Call} {next : Option Call}

theorem Resumed.settles
    (resumed : Resumed urlOf tick store call after next)
    (good : store.Good) (sound : Sound store call) :
    Settles courierUid store after call next := by
  cases resumed with
  | uploaded | unanswered => exact .leaves rfl rfl (.inl rfl)
  | found upload previous active =>
    refine .leaves rfl ?_ (.inl rfl)
    by_cases own : upload.courierUid = courierUid
    · subst own
      simp [Call.mends, Store.live, active]
    · simp [Call.mends, own]
  | foundNone upload inactive =>
    by_cases own : upload.courierUid = courierUid
    · subst own
      exact .goesOn _ rfl (by simp [Call.mends, Store.live, inactive])
    · exact .leaves rfl (by simp [Call.mends, own]) (.inl rfl)
  | retired upload previous =>
    rcases good.retires Store.retiring_superseded sound.2.1 with
      same | ⟨own, gone⟩
    · cases mends : Call.mends courierUid (store.live courierUid) (.retire upload previous) with
      | false => exact .leaves same mends (.inl rfl)
      | true =>
        refine .goesOn _ rfl ?_
        rw [Store.live, same]
        exact mends
    · refine .goesOn _ rfl ?_
      have own' : upload.courierUid = courierUid := sound.2.2.symm.trans own
      simp [Call.mends, Store.live, gone, own']
  | refused upload previous active =>
    refine .leaves rfl ?_ (.inl rfl)
    by_cases own : upload.courierUid = courierUid
    · subst own
      simp [Call.mends, Store.live, Option.isSome_iff_ne_none, active]
    · simp [Call.mends, own]
  | inserted upload previous unused inactive =>
    by_cases own : upload.courierUid = courierUid
    · subst own
      refine .goesOn _ rfl ?_
      rw [Store.live, Store.activeSelfie_insertSelfie inactive]
      simp [Call.mends, Upload.selfie]
    · exact .leaves (Store.activeSelfie_insertSelfie_of_ne own)
        (by simp [Call.mends, own]) (.inl rfl)
  | presented created previous =>
    by_cases own : created.courierUid = courierUid
    · subst own
      by_cases live : store.live created.courierUid = some created._id
      · apply Settles.shows
        rcases Option.map_eq_some_iff.mp live with ⟨row, active, same⟩
        rcases sound.1 with ⟨other, member, image⟩
        have found := Store.mem_liveSelfies.mp (Store.mem_of_activeSelfie active)
        cases good.eq_of_id found.1 member (same.trans image.id.symm)
        have active' : (store.updateAccount created.courierUid
            created.opened).activeSelfie created.courierUid =
              some row :=
          active
        rw [Store.Shown, active']
        simp [Store.updateAccount, CourierSelfie.opened, image.publicUrl]
      · refine .leaves rfl ?_ (.inr ⟨some created._id, ?_, ?_⟩)
        · simp [Call.mends, live]
        · simp [Call.shows]
        · exact Ne.symm live
    · refine .leaves rfl ?_ (.inl ?_)
      · simp [Call.mends, own]
      · exact Function.update_of_ne (Ne.symm own) _ _
  | revokedLive selfie _ _ live =>
    rcases good.retires Store.retiring_revoked sound.1 with
      same | ⟨own, gone⟩
    · cases mends : Call.mends courierUid (store.live courierUid) (.revoke selfie _ _) with
      | false => exact .leaves same mends (.inl rfl)
      | true =>
        refine .goesOn _ rfl ?_
        rw [Store.live, same]
        exact (Bool.and_eq_true _ _ ▸ mends).1
    · exact .goesOn _ rfl (by simp [Call.mends, Store.live, gone, own])
  | revokedDead selfie _ _ dead =>
    refine .leaves ?_ (by simp [Call.mends, dead]) (.inl rfl)
    apply Store.activeSelfie_of_spared Store.retiring_revoked
    intro row live same
    have found := Store.mem_liveSelfies.mp live
    rcases sound.1 with ⟨other, member, image⟩
    cases good.eq_of_id found.1 member (same.trans image.id.symm)
    rcases sound.2 dead with ⟨gone, member', key, retired⟩
    cases good.eq_of_key member' member (key.trans image.storageKey.symm)
    exact retired found.2.2
  | locked selfie reason =>
    by_cases own : selfie.courierUid = courierUid
    · subst own
      cases active : store.activeSelfie selfie.courierUid with
      | none =>
        apply Settles.shows
        have active' : (store.updateAccount selfie.courierUid
            (CourierVerification.locked reason)).activeSelfie selfie.courierUid = none :=
          active
        rw [Store.Shown, active']
        simp [Store.updateAccount, CourierVerification.locked]
      | some row =>
        refine .leaves rfl ?_ (.inr ⟨none, ?_, ?_⟩)
        · simp [Call.mends, Store.live, active]
        · simp [Call.shows]
        · simp [Store.live, active]
    · refine .leaves rfl ?_ (.inl ?_)
      · simp [Call.mends, own]
      · exact Function.update_of_ne (Ne.symm own) _ _
  | discarded storageKey =>
    refine .leaves ?_ rfl (.inl ?_)
    · rw [Store.activeSelfie, Store.deleteObject_selfies]
      rfl
    · rw [Store.deleteObject_accounts]

end

section

variable {urlOf : String → String} {courierUid : Uid}
  {configuration after : Calls} {move : Move Request Tick}

def Settled (courierUid : Uid) (configuration : Calls) : Prop :=
  awaited courierUid configuration = true ∨ configuration.store.Shown courierUid

theorem Store.Shown.congr {store after : Store}
    (shown : store.Shown courierUid)
    (rows : after.activeSelfie courierUid = store.activeSelfie courierUid)
    (account : after.accounts courierUid = store.accounts courierUid) :
    after.Shown courierUid := by
  rw [Store.Shown, rows, account]
  exact shown

theorem Settled.step (settled : Settled courierUid configuration)
    (ordered : Ordered configuration)
    (allowed : upToDate courierUid configuration move = true)
    (stepped : (verification urlOf).system.step move configuration = some after) :
    Settled courierUid after := by
  cases Service.stepped_of_step stepped with
  | entered request call enters =>
    rcases settled with waiting | shown
    · exact .inl (someCall_entered waiting)
    · exact .inr shown
  | resumed index tick call store next waits resumes =>
    have settles := @Resumed.settles courierUid _ _ _ _ _ _
      (resumed_of_resume resumes)
      ordered.sited.good
      (ordered.sited.sound index call waits)
    cases settles with
    | goesOn call' follows mends =>
      subst follows
      exact .inl (someCall_next waits mends)
    | shows shown => exact .inr shown
    | leaves rows idle late =>
      have goesOn : awaited courierUid configuration = true →
          awaited courierUid (configuration.resumed index store next) =
            true := by
        intro waiting
        have live : store.live courierUid =
            configuration.store.live courierUid := by
          rw [Store.live, rows]
          rfl
        rw [awaited, Configuration.resumed]
        dsimp only
        rw [live]
        apply someCall_resumed waits waiting
        intro mends
        rw [idle] at mends
        cases mends
      rcases settled with waiting | shown
      · exact .inl (goesOn waiting)
      · rcases late with same | ⟨written, shows, behind⟩
        · exact .inr (shown.congr rows same)
        · left
          apply goesOn
          rw [upToDate, waits] at allowed
          dsimp only at allowed
          rw [shows] at allowed
          dsimp only at allowed
          rcases Bool.or_eq_true_iff.mp allowed with right | waiting
          · exact (behind (eq_of_beq right).symm).elim
          · exact waiting

theorem Settled.gated (settled : Settled courierUid configuration)
    (ordered : Ordered configuration) (quiet : configuration.Quiet) :
    configuration.store.Gated courierUid := by
  have good := ordered.sited.good
  have shown : configuration.store.Shown courierUid :=
    settled.resolve_left (not_someCall_of_quiet quiet)
  rw [Store.Shown] at shown
  cases active : configuration.store.activeSelfie courierUid with
  | none =>
    rw [active] at shown
    have dark := Store.liveSelfies_of_inactive active
    constructor
    · rw [dark]
      exact ⟨fun status => (shown status).elim, nofun⟩
    · rw [dark]
      exact fun _ member => (List.not_mem_nil member).elim
    · exact fun _ live => good.stored live
  | some row =>
    rw [active] at shown
    have live := good.liveSelfies_of_active active
    constructor
    · rw [live]
      exact ⟨fun _ => rfl, fun _ => shown.1⟩
    · intro other member
      rw [live] at member
      cases List.mem_singleton.mp member
      exact shown.2
    · exact fun _ live => good.stored live

/--
In a run in which the account is never left out of date, it shows the live selfie
whenever no call is in progress.
-/
theorem gateShowsTheSelfie (courierUid : Uid)
    (reached : (verification urlOf).system.Reaches (fun configuration move =>
        upToDate courierUid configuration move = true) (.start .empty) configuration)
    (quiet : configuration.Quiet) :
    configuration.store.Gated courierUid := by
  have settled : Settled courierUid configuration := by
    apply reached.layered Ordered (Settled courierUid)
    · exact fun _ reached => ordered_of_reaches reached
    · exact .inr nofun
    · exact fun _ _ _ ordered settled allowed stepped =>
        settled.step ordered allowed stepped
  exact settled.gated (ordered_of_reaches reached) quiet

end

/-! ## Sample runs -/

namespace Sample

def urlOf (storageKey : String) : String := "https://cdn.test/" ++ storageKey

def submission : Submission where
  livenessChallenge := .BLINK
  livenessMetadata :=
    { durationMs := 2400
      eyesOpenScore := 1
      yawDegrees := 0
      pitchDegrees := 0 }
  mimeType := "image/jpeg"
  fileSizeBytes := 48000

def submits : Move Request Tick := .enter (.submitSelfie "courier" submission)

def revokes (selfieId : ObjectId) : Move Request Tick :=
  .enter (.revokeSelfie selfieId "reviewer" "blurred")

def goesOn (index : ℕ) (now : Instant) (drawn : String) :
    Move Request Tick :=
  .resume index { now, drawn }

def first : List (Move Request Tick) :=
  [submits, goesOn 0 1 "image", goesOn 0 2 "", goesOn 0 3 "selfie", goesOn 0 4 ""]

def retake : List (Move Request Tick) :=
  [revokes "selfie", submits, goesOn 2 5 "retake", goesOn 2 6 "", goesOn 2 7 ""]

def seen (configuration : Calls) :
    Bool × Option CourierSelfieStatus × ℕ :=
  (configuration.someCall fun _ => true,
    (configuration.store.accounts "courier").selfieStatus,
    (configuration.store.liveSelfies "courier").length)

end Sample

/-- The account is locked before the retake is shown there. -/
theorem gateShowsTheSelfie_retake :
    ∃ configuration : Calls, (verification Sample.urlOf).system.Reaches (fun configuration move =>
            upToDate "courier" configuration move = true)
          (.start .empty) configuration ∧
        configuration.Quiet ∧
        (configuration.store.liveSelfies "courier").length = 1 ∧
        configuration.store.Gated "courier" := by
  have performed : (((verification Sample.urlOf).system.restrict (fun configuration move =>
            upToDate "courier" configuration move = true)).perform
        (Sample.first ++ Sample.retake ++
          [Sample.goesOn 2 8 "second", Sample.goesOn 1 9 "",
            Sample.goesOn 1 10 "", Sample.goesOn 1 11 "",
            Sample.goesOn 2 12 "", Sample.goesOn 2 13 ""])
        (.start .empty)).map Sample.seen = some (false, some .ACTIVE, 1) := by
    decide +kernel
  rcases System.reaches_of_map_restrict performed with ⟨configuration, reached, seen⟩
  rcases Prod.mk.inj seen with ⟨returned, facts⟩
  have quiet := quiet_iff.mpr returned
  exact
    ⟨configuration, reached, quiet, (Prod.mk.inj facts).2,
      gateShowsTheSelfie "courier" reached quiet⟩

/-- The account is locked after the retake was shown there. -/
theorem retakenSelfieLocked :
    ¬ ∀ (urlOf : String → String) (courierUid : Uid)
        (configuration : Calls),
      (verification urlOf).system.Reaches (fun _ _ => True) (.start .empty) configuration →
      configuration.Quiet → configuration.store.Gated courierUid := by
  intro always
  have performed :
      ((verification Sample.urlOf).system.perform (Sample.first ++ Sample.retake ++
          [Sample.goesOn 2 8 "second", Sample.goesOn 2 9 "",
            Sample.goesOn 2 10 "", Sample.goesOn 1 11 "",
            Sample.goesOn 1 12 "", Sample.goesOn 1 13 ""])
        (.start .empty)).map Sample.seen = some (false, some .REVOKED, 1) := by
    decide +kernel
  rcases System.reaches_of_map performed with ⟨configuration, ran, seen⟩
  rcases Prod.mk.inj seen with ⟨returned, facts⟩
  rcases Prod.mk.inj facts with ⟨status, live⟩
  have gated := always Sample.urlOf "courier" configuration ran (quiet_iff.mpr returned)
  rw [gated.status.mpr live] at status
  cases status

end Lalaba.CourierVerification
