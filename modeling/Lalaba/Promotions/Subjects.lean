import Lalaba.Promotions.Counter

/-!
# The cap of a subject

A code may be used so often by one customer, or by one branch.  The uses of a
subject are counted before the transaction that records another one, and unlike
the total they are not counted again in it.
-/

namespace Lalaba.Promotions

open Foundation

/-- Whom a redemption is charged to. -/
inductive Subject where
  | customer (uid : Uid)
  | branch (branchId : ObjectId)
deriving DecidableEq

/-- `subjectTypeOf`, with the id that goes with it. -/
def PromoRedemption.subject (row : PromoRedemption) : Subject :=
  match row.subjectType, row.subjectId with
  | some .branch, some branchId => .branch branchId
  | _, _ => .customer row.customerUid

theorem PromoRedemption.customerUid_of_subject {row : PromoRedemption}
    {uid : Uid} (charged : row.subject = .customer uid) :
    row.customerUid = uid := by
  rw [subject] at charged
  split at charged
  · cases charged
  · cases charged
    rfl

theorem PromoRedemption.subjectId_of_subject {row : PromoRedemption}
    {branchId : ObjectId} (charged : row.subject = .branch branchId) :
    row.subjectId = some branchId := by
  rw [subject] at charged
  split at charged
  · cases charged
    assumption
  · cases charged

namespace PromotionStore

def usesBy (promoId : ObjectId) (subject : Subject)
    (store : PromotionStore) : ℕ :=
  store.redemptions.countP fun row =>
    row.holds promoId && decide (row.subject = subject)

variable {store after : PromotionStore}

theorem usesBy_customer_le (promoId : ObjectId) (uid : Uid)
    (store : PromotionStore) :
    store.usesBy promoId (.customer uid) ≤
      store.usesByCustomer promoId uid := by
  apply List.countP_mono_left
  intro row _ selected
  simp only [PromoRedemption.holds, Bool.and_eq_true, decide_eq_true_eq] at selected ⊢
  rcases selected with ⟨⟨promo, held⟩, charged⟩
  refine ⟨⟨promo, ?_⟩, held⟩
  exact beq_iff_eq.mpr (row.customerUid_of_subject charged)

theorem usesBy_branch_le (promoId branchId : ObjectId)
    (store : PromotionStore) :
    store.usesBy promoId (.branch branchId) ≤
      store.usesBySubject promoId branchId := by
  apply List.countP_mono_left
  intro row _ selected
  simp only [PromoRedemption.holds, Bool.and_eq_true, decide_eq_true_eq] at selected ⊢
  rcases selected with ⟨⟨promo, held⟩, charged⟩
  refine ⟨⟨promo, ?_⟩, held⟩
  exact beq_iff_eq.mpr (row.subjectId_of_subject charged)

/-! ## Changes that give no subject more -/

def subjectCaps (store : PromotionStore) : List (ObjectId × ℤ) :=
  store.promos.map fun promo => (promo._id, promo.capPerSubject)

/-- The codes have the same caps, and no subject holds more of any. -/
structure Relieves (store after : PromotionStore) : Prop where
  caps : after.subjectCaps = store.subjectCaps
  rows : ∀ row ∈ after.redemptions, ∃ old ∈ store.redemptions, old.promoId = row.promoId
  uses : ∀ promoId subject, after.usesBy promoId subject ≤ store.usesBy promoId subject

theorem Relieves.refl (store : PromotionStore) : store.Relieves store :=
  ⟨rfl, fun row member => ⟨row, member, rfl⟩, fun _ _ => le_rfl⟩

theorem Relieves.trans {middle : PromotionStore}
    (first : store.Relieves middle) (second : middle.Relieves after) :
    store.Relieves after where
  caps := second.caps.trans first.caps
  rows := by
    intro row member
    rcases second.rows row member with ⟨between, member', same⟩
    rcases first.rows between member' with ⟨old, member'', same'⟩
    exact ⟨old, member'', same'.trans same⟩
  uses := fun promoId subject =>
    (second.uses promoId subject).trans (first.uses promoId subject)

variable {promoId : ObjectId}

theorem subjectCaps_setPromo {change : PromoCode → PromoCode}
    (same : ∀ promo, ((change promo)._id, (change promo).capPerSubject) =
      (promo._id, promo.capPerSubject)) :
    (store.setPromo promoId change).subjectCaps = store.subjectCaps := by
  rw [subjectCaps, setPromo, List.map_map]
  apply List.map_congr_left
  intro promo _
  simp only [Function.comp_apply]
  split
  · exact same promo
  · rfl

theorem Relieves.of_map {promos : List PromoCode}
    {change : PromoRedemption → PromoRedemption}
    (caps : subjectCaps { store with promos } = store.subjectCaps)
    (same : ∀ row, (change row).promoId = row.promoId ∧
      (change row).subject = row.subject ∧
      ((change row).status = row.status ∨ row.status ≠ .released)) :
    store.Relieves { promos, redemptions := store.redemptions.map change } where
  caps := caps
  rows := by
    intro row member
    rcases List.mem_map.mp member with ⟨old, stored, rfl⟩
    exact ⟨old, stored, (same old).1.symm⟩
  uses := by
    intro promoId subject
    rw [usesBy, List.countP_map]
    apply List.countP_mono_left
    intro row _ selected
    rcases same row with ⟨promo, subject', status⟩
    simp only [Function.comp_apply, PromoRedemption.holds, promo, subject',
      Bool.and_eq_true, bne_iff_ne] at selected ⊢
    refine ⟨⟨selected.1.1, ?_⟩, selected.2⟩
    rcases status with equal | held
    · rw [← equal]
      exact selected.1.2
    · exact held

theorem relieves_settleForOrder (orderId : ObjectId) :
    store.Relieves (store.settleForOrder orderId) := by
  apply Relieves.of_map rfl
  intro row
  split
  · rename_i settled
    refine ⟨rfl, rfl, .inr ?_⟩
    rw [settled.2]
    rintro ⟨⟩
  · exact ⟨rfl, rfl, .inl rfl⟩

theorem relieves_releaseRow (now : Instant) (row : PromoRedemption) :
    store.Relieves (store.releaseRow now row) := by
  rw [releaseRow]
  split
  · apply Relieves.of_map
    · rw [subjectCaps, countRedemption, List.map_map]
      apply List.map_congr_left
      intro promo _
      simp only [Function.comp_apply]
      split <;> rfl
    · intro other
      split
      · rename_i flipped
        refine ⟨rfl, rfl, .inr ?_⟩
        rw [flipped.2]
        rintro ⟨⟩
      · exact ⟨rfl, rfl, .inl rfl⟩
  · exact .refl store

theorem relieves_releaseAll (now : Instant) (held : List PromoRedemption) :
    store.Relieves (store.releaseAll now held) := by
  induction held generalizing store with
  | nil => exact .refl store
  | cons row rest induction =>
    exact (relieves_releaseRow now row).trans induction

theorem usesBy_inserted (row : PromoRedemption) (promoId : ObjectId)
    (subject : Subject) :
    ((store.countRedemption row.promoId 1).insertRedemption row).usesBy
        promoId subject ≤
      store.usesBy promoId subject +
        if row.promoId = promoId ∧ row.subject = subject then 1 else 0 := by
  rw [usesBy, insertRedemption, countRedemption, List.countP_append, List.countP_singleton, usesBy]
  apply Nat.add_le_add_left
  split
  · rename_i selected
    simp only [PromoRedemption.holds, Bool.and_eq_true, beq_iff_eq, decide_eq_true_eq] at selected
    rw [if_pos ⟨selected.1.1, selected.2⟩]
  · exact Nat.zero_le _

theorem subjectCaps_inserted (row : PromoRedemption) :
    ((store.countRedemption row.promoId 1).insertRedemption
      row).subjectCaps = store.subjectCaps := by
  rw [subjectCaps, insertRedemption, countRedemption, List.map_map]
  apply List.map_congr_left
  intro promo _
  simp only [Function.comp_apply]
  split <;> rfl

/-- No subject holds more of a code than its cap. -/
structure Fair (store : PromotionStore) : Prop where
  identified : (store.subjectCaps.map Prod.fst).Nodup
  owned : ∀ row ∈ store.redemptions, row.promoId ∈ store.subjectCaps.map Prod.fst
  capped : ∀ promoId cap, (promoId, cap) ∈ store.subjectCaps →
    ∀ subject, (store.usesBy promoId subject : ℤ) ≤ cap

theorem Fair.relieved (fair : store.Fair) (relieves : store.Relieves after) : after.Fair where
  identified := by
    rw [relieves.caps]
    exact fair.identified
  owned := by
    intro row member
    rcases relieves.rows row member with ⟨old, stored, same⟩
    rw [relieves.caps, ← same]
    exact fair.owned old stored
  capped := by
    intro promoId cap member subject
    rw [relieves.caps] at member
    have less : (after.usesBy promoId subject : ℤ) ≤
        store.usesBy promoId subject := by
      exact_mod_cast relieves.uses promoId subject
    exact less.trans (fair.capped promoId cap member subject)

theorem Fair.unique (fair : store.Fair) {cap other : ℤ}
    (member : (promoId, cap) ∈ store.subjectCaps)
    (member' : (promoId, other) ∈ store.subjectCaps) : cap = other := by
  have same := List.inj_on_of_nodup_map fair.identified member member' rfl
  exact congrArg Prod.snd same

theorem Fair.inserted (fair : store.Fair) {row : PromoRedemption}
    {cap : ℤ} (member : (row.promoId, cap) ∈ store.subjectCaps)
    (room : (store.usesBy row.promoId row.subject : ℤ) < cap) :
    ((store.countRedemption row.promoId 1).insertRedemption row).Fair where
  identified := by
    rw [subjectCaps_inserted]
    exact fair.identified
  owned := by
    intro other member'
    rw [subjectCaps_inserted]
    simp only [insertRedemption, countRedemption, List.mem_append, List.mem_singleton] at member'
    rcases member' with old | rfl
    · exact fair.owned other old
    · exact List.mem_map.mpr ⟨_, member, rfl⟩
  capped := by
    intro promoId limit member' subject
    rw [subjectCaps_inserted] at member'
    have count := @usesBy_inserted store row promoId subject
    have before := fair.capped promoId limit member' subject
    split at count
    · rename_i charged
      rcases charged with ⟨rfl, rfl⟩
      rw [fair.unique member' member]
      omega
    · omega

/-- A new code has not been used by anybody. -/
theorem Fair.create (fair : store.Fair) {input : CreatePromoInput}
    (created : store.create promoId input = .ok after) :
    after.Fair ∧ ∀ entry ∈ store.subjectCaps, entry ∈ after.subjectCaps := by
  rcases create_ok created with ⟨fresh, rfl⟩
  have caps : subjectCaps
      { store with promos := store.promos ++ [newPromo promoId input] } =
        store.subjectCaps ++ [(promoId, (newPromo promoId input).capPerSubject)] := by
    rw [subjectCaps, List.map_append]
    rfl
  have free : promoId ∉ store.subjectCaps.map Prod.fst := by
    intro member
    rw [subjectCaps, List.map_map] at member
    rcases List.mem_map.mp member with ⟨promo, stored, same⟩
    exact fresh promo stored same
  refine ⟨⟨?_, ?_, ?_⟩, ?_⟩
  · rw [caps, List.map_append, List.nodup_append]
    refine ⟨fair.identified, List.nodup_singleton _, ?_⟩
    rintro first one second two rfl
    cases List.mem_singleton.mp two
    exact free one
  · intro row member
    rw [caps, List.map_append]
    exact List.mem_append_left _ (fair.owned row member)
  · intro other cap member subject
    rw [caps] at member
    rcases List.mem_append.mp member with old | new
    · exact fair.capped other cap old subject
    · cases List.mem_singleton.mp new
      have unused : store.usesBy promoId subject = 0 := by
        apply List.countP_eq_zero.mpr
        intro row stored selected
        simp only [PromoRedemption.holds, Bool.and_eq_true, beq_iff_eq] at selected
        rw [← selected.1.1] at free
        exact free (fair.owned row stored)
      have nonneg : 0 ≤ (newPromo promoId input).capPerSubject := by
        rw [PromoCode.capPerSubject, newPromo]
        cases input.usageCapPerSubject with
        | none => exact Int.natCast_nonneg _
        | some cap => exact Int.natCast_nonneg cap
      have unused' : (PromotionStore.usesBy promoId subject { store with
            promos := store.promos ++ [newPromo promoId input] } : ℤ) =
          0 := by
        exact_mod_cast unused
      rw [unused']
      exact nonneg
  · intro entry member
    rw [caps]
    exact List.mem_append_left _ member

end PromotionStore

/-! ## Calls in flight -/

def Call.Charged (store : PromotionStore) : Call → Prop
  | .redemption promo row =>
    row.promoId = promo._id ∧ row.subjectType = none ∧
      (promo._id, promo.capPerSubject) ∈ store.subjectCaps
  | _ => True

theorem Call.Charged.later {store after : PromotionStore} {call : Call}
    (charged : call.Charged store)
    (caps : ∀ entry ∈ store.subjectCaps, entry ∈ after.subjectCaps) :
    call.Charged after := by
  cases call with
  | redemption promo row =>
    exact ⟨charged.1, charged.2.1, caps _ charged.2.2⟩
  | branch | release => trivial

/-- The caps are kept, and every call in flight knows its own. -/
structure State.Fair (state : State) : Prop where
  store : state.store.Fair
  calls : ∀ call ∈ state.calls, call.Charged state.store

/--
When the transaction of a redemption commits, the check of the subject's cap that
was made before it would still be passed.
-/
def recounted (state : State) : Action → Bool
  | .commit index _ =>
    match state.calls[index]? with
    | some (.redemption promo row) =>
      decide ((state.store.usesByCustomer promo._id row.customerUid : ℤ) < promo.capPerSubject)
    | some (.branch input) =>
      (state.store.findById input.promoId).all fun promo =>
        decide ((state.store.usesBySubject promo._id input.branchId : ℤ) < promo.capPerSubject)
    | _ => true
  | _ => true

section

variable {state next : State} {store after : PromotionStore}

variable {call : Call}

theorem State.Fair.begin (fair : state.Fair)
    (charged : call.Charged state.store) : (state.begin call).Fair where
  store := fair.store
  calls := by
    intro other member
    rcases List.mem_append.mp member with old | new
    · exact fair.calls other old
    · cases List.mem_singleton.mp new
      exact charged

theorem State.Fair.write (fair : state.Fair) (kept : next.store.Fair)
    (caps : ∀ entry ∈ state.store.subjectCaps, entry ∈ next.store.subjectCaps)
    (calls : next.calls ⊆ state.calls) : next.Fair where
  store := kept
  calls := fun call member =>
    (fair.calls call (calls member)).later caps

theorem PromotionStore.mem_subjectCaps {promo : PromoCode}
    (member : promo ∈ store.promos) :
    (promo._id, promo.capPerSubject) ∈ store.subjectCaps :=
  List.mem_map_of_mem member

theorem createRedemption_charged {accounts : Accounts} {now : Instant}
    {input : RedeemPromoInput} {status : PromoRedemptionStatus}
    (created : createRedemption accounts now input status store =
      .ok call) : call.Charged store := by
  rcases createRedemption_ok created with ⟨promo, member, _, _, _, rfl⟩
  exact ⟨rfl, rfl, PromotionStore.mem_subjectCaps member⟩

/-- A transaction whose check would still pass keeps the caps. -/
theorem State.Fair.transact (fair : state.Fair) {index : ℕ} {now : Instant}
    (flying : state.calls[index]? = some call)
    (passes : recounted state (.commit index now) = true)
    (committed : call.transact now state.store = .ok after) :
    after.Fair ∧ after.subjectCaps = state.store.subjectCaps := by
  have charged := fair.calls call (List.mem_of_getElem? flying)
  cases call with
  | redemption promo row =>
    rcases charged with ⟨same, customer, member⟩
    simp only [recounted, flying, decide_eq_true_eq] at passes
    rcases Call.transact_redemption committed with ⟨_, _, _, rfl⟩
    rw [← same] at member passes ⊢
    refine ⟨fair.store.inserted member ?_, PromotionStore.subjectCaps_inserted row⟩
    have subject : row.subject = .customer row.customerUid := by
      rw [PromoRedemption.subject, customer]
    have count := PromotionStore.usesBy_customer_le row.promoId row.customerUid state.store
    rw [subject]
    omega
  | branch input =>
    simp only [recounted, flying] at passes
    rcases Call.transact_branch committed with
      rfl | ⟨promo, row, lookup, _, own, _, type, subjectId, rfl⟩
    · exact ⟨fair.store, rfl⟩
    · rw [lookup] at passes
      simp only [Option.all_some, decide_eq_true_eq] at passes
      have member := PromotionStore.mem_subjectCaps (PromotionStore.mem_of_findById lookup).1
      have subject : row.subject = .branch input.branchId := by
        rw [PromoRedemption.subject, type, subjectId]
      have count := PromotionStore.usesBy_branch_le promo._id input.branchId state.store
      rw [PromotionStore.record_eq _ _ _ own]
      rw [← own] at member passes count
      refine ⟨fair.store.inserted member ?_, PromotionStore.subjectCaps_inserted _⟩
      rw [subject]
      omega
  | release orderId held =>
    cases committed
    have relieves := @PromotionStore.relieves_releaseAll state.store now held
    exact ⟨fair.store.relieved relieves, relieves.caps⟩

theorem State.Fair.relieved (fair : state.Fair)
    (relieves : state.store.Relieves next.store)
    (calls : next.calls ⊆ state.calls) : next.Fair := by
  apply fair.write (fair.store.relieved relieves) _ calls
  intro entry member
  rw [relieves.caps]
  exact member

theorem PromotionStore.relieves_setPromo {promoId : ObjectId}
    {change : PromoCode → PromoCode}
    (same : ∀ promo, ((change promo)._id, (change promo).capPerSubject) =
      (promo._id, promo.capPerSubject)) :
    store.Relieves (store.setPromo promoId change) :=
  ⟨subjectCaps_setPromo same, fun row member => ⟨row, member, rfl⟩,
    fun _ _ => le_rfl⟩

theorem State.Fair.step (fair : state.Fair) {action : Action}
    (passes : recounted state action = true)
    (stepped : Promotions.step action state = some next) : next.Fair := by
  cases action with
  | create promoId input =>
    rcases Option.map_eq_some_iff.mp stepped with ⟨store, created, rfl⟩
    rcases fair.store.create (toOption_eq_some.mp created) with ⟨kept, caps⟩
    exact fair.write kept caps fun _ member => member
  | update promoId input =>
    rcases Option.map_eq_some_iff.mp stepped with ⟨store, updated, rfl⟩
    rcases PromotionStore.update_ok (toOption_eq_some.mp updated) with rfl
    have relieves := @PromotionStore.relieves_setPromo state.store promoId input.apply fun _ => rfl
    exact fair.relieved relieves fun _ member => member
  | setActive promoId isActive =>
    rcases Option.map_eq_some_iff.mp stepped with ⟨store, updated, rfl⟩
    rcases PromotionStore.setActive_ok (toOption_eq_some.mp updated) with
      rfl
    have relieves := @PromotionStore.relieves_setPromo state.store
      promoId (fun promo => { promo with isActive }) fun _ => rfl
    exact fair.relieved relieves fun _ member => member
  | redeem | reserve =>
    rcases Option.map_eq_some_iff.mp stepped with ⟨call, created, rfl⟩
    exact fair.begin (createRedemption_charged (toOption_eq_some.mp created))
  | reserveForBranch | releaseForOrder =>
    cases stepped
    exact fair.begin trivial
  | applyPlatformFeePromo now roleId input =>
    rcases Option.map_eq_some_iff.mp stepped with ⟨promo, _, rfl⟩
    exact fair.begin trivial
  | settleForOrder orderId =>
    cases stepped
    exact fair.relieved (PromotionStore.relieves_settleForOrder orderId)
      fun _ member => member
  | commit index now =>
    simp only [Promotions.step] at stepped
    split at stepped
    · cases stepped
    · rename_i call flying
      split at stepped
      · cases stepped
        exact fair.relieved (.refl _)
          fun _ member => List.mem_of_mem_eraseIdx member
      · rename_i store outcome
        cases stepped
        rcases fair.transact flying passes outcome with ⟨kept, caps⟩
        apply fair.write kept _
          fun _ member => List.mem_of_mem_eraseIdx member
        intro entry member
        show entry ∈ store.subjectCaps
        rw [caps]
        exact member
  | crash index =>
    cases stepped
    exact fair.relieved (.refl _)
      fun _ member => List.mem_of_mem_eraseIdx member

end

/-- Nobody holds more of a code than its cap, when no check has gone stale. -/
theorem subjectCapsAreKept {state : State}
    (reached : promotionSystem.Reaches
      (fun state action => recounted state action = true) .start state)
    {promo : PromoCode} (member : promo ∈ state.store.promos)
    (subject : Subject) :
    (state.store.usesBy promo._id subject : ℤ) ≤ promo.capPerSubject := by
  have fair : state.Fair := by
    apply reached.invariant State.Fair
    · refine ⟨⟨List.nodup_nil, ?_, ?_⟩, ?_⟩
      · intro row member
        cases member
      · intro promoId cap member
        cases member
      · intro call member
        cases member
    · exact fun state action after fair passes stepped =>
        fair.step passes stepped
  exact fair.store.capped promo._id promo.capPerSubject
    (PromotionStore.mem_subjectCaps member) subject

def Desk.race : List Action :=
  [ .create "promo" Desk.halfOff,
    .reserve Desk.accounts 1 (Desk.order "first"),
    .reserve Desk.accounts 1 (Desk.order "second") ]

/-- One customer, one use: the first of the two is recorded. -/
theorem subjectCapsAreKept_first :
    ∃ state promo,
      promotionSystem.Reaches
          (fun state action => recounted state action = true) .start
          state ∧
        promo ∈ state.store.promos ∧
        state.store.usesBy "promo" (.customer "customer") = 1 ∧
        (state.store.usesBy promo._id (.customer "customer") : ℤ) ≤
          promo.capPerSubject := by
  have performed : ((promotionSystem.restrict fun state action =>
          recounted state action = true).perform
        (Desk.race ++ [.commit 0 2]) .start).map (fun state =>
          (state.store.promos.map PromoCode._id,
            state.store.usesBy "promo" (.customer "customer"))) =
        some (["promo"], 1) := by
    decide +kernel
  rcases System.reaches_of_map_restrict performed with ⟨state, reached, seen⟩
  simp only [Prod.mk.injEq] at seen
  rcases List.map_eq_singleton_iff.mp seen.1 with ⟨promo, promos, _⟩
  have member : promo ∈ state.store.promos := by
    rw [promos]
    exact List.mem_singleton_self promo
  exact ⟨state, promo, reached, member, seen.2, subjectCapsAreKept reached member _⟩

/-- Both redemptions are recorded, though the customer may only use one. -/
theorem subjectCapNotKept :
    ¬ ∀ (state : State) (promo : PromoCode) (subject : Subject),
      promotionSystem.Reaches (fun _ _ => True) .start state →
        promo ∈ state.store.promos →
          (state.store.usesBy promo._id subject : ℤ) ≤
            promo.capPerSubject := by
  intro claimed
  have performed :
      (promotionSystem.perform (Desk.race ++ [.commit 0 2, .commit 0 2]) .start).map (fun state =>
          (state.store.promos.map (fun promo =>
              (promo._id, promo.capPerSubject)),
            state.store.usesBy "promo" (.customer "customer"))) =
        some ([("promo", 1)], 2) := by
    decide +kernel
  rcases System.reaches_of_map performed with ⟨state, ran, seen⟩
  simp only [Prod.mk.injEq] at seen
  rcases List.map_eq_singleton_iff.mp seen.1 with ⟨promo, promos, equal⟩
  simp only [Prod.mk.injEq] at equal
  have kept := claimed state promo (.customer "customer") ran (by simp [promos])
  rw [equal.1, equal.2, seen.2] at kept
  exact absurd kept (by decide)

end Lalaba.Promotions
