import Lalaba.Promotions.Counter

/-!
# Incentives for providers

A code with the scope of the platform fee is an incentive for a provider.  The checks
of a redemption do not look at the scope of a code, only at the roles it is for, and
the checks of a new code do not look at its roles together with its scope.  The
roles of a code are never changed, so what they are at its creation decides whether a
customer can ever redeem it.
-/

namespace Lalaba.Promotions

open Foundation

/-- The roles that `createOnlineOrder` is open to. -/
def ORDERING_ROLES : List String := ["customer"]

def Account.mayOrder (account : Account) : Bool := account.roleId.any (ORDERING_ROLES.contains ·)

/-- `validate`; the code is trimmed and in upper case. -/
def PromotionStore.validate (accounts : Accounts) (now : Instant)
    (code : String) (customerUid : Uid) (orderTotalCentavos : ℚ)
    (store : PromotionStore) : Except String ℚ :=
  match store.findByCode code with
  | none => .error "Code not found"
  | some promo =>
    store.validateAgainst now promo (accounts.redeemer customerUid) orderTotalCentavos

/-- A platform fee promotion that is accepted, with the caps its input allows. -/
structure Incentive (input : CreatePromoInput) : Prop where
  fee : input.scope = some .platformFee
  creatable : assertCreatable input = .ok ()
  total : ∀ cap, input.usageCapTotal = some cap → 1 ≤ cap
  customer : ∀ cap, input.usageCapPerCustomer = some cap → 1 ≤ cap
  subject : ∀ cap, input.usageCapPerSubject = some cap → 1 ≤ cap

/-- No account that can place an order finds a code valid, or redeems it. -/
structure PromotionStore.Withheld (promoId : ObjectId) (store : PromotionStore) : Prop where
  invalid : ∀ code promo, store.findByCode code = some promo →
    promo._id = promoId → ∀ (accounts : Accounts) now customerUid account,
      accounts customerUid = some account → account.mayOrder = true →
        ∀ orderTotalCentavos discount,
          store.validate accounts now code customerUid orderTotalCentavos ≠ .ok discount
  refused : ∀ (accounts : Accounts) now input status account,
    accounts input.customerUid = some account → account.mayOrder = true →
      ∀ promo row,
        createRedemption accounts now input status store =
            .ok (.redemption promo row) →
          row.promoId ≠ promoId

def PromotionStore.ForBranches (promoId : ObjectId)
    (store : PromotionStore) : Prop :=
  ∀ row ∈ store.redemptions, row.promoId = promoId → row.subjectType = some .branch

def byCustomers : Action → Bool
  | .redeem accounts _ input | .reserve accounts _ input =>
    (accounts input.customerUid).any Account.mayOrder
  | _ => true

namespace PromotionStore

/-! ## The roles a code is for -/

def audiences (store : PromotionStore) : List (ObjectId × List String) :=
  store.promos.map fun promo => (promo._id, promo.targetRoleIds)

def promoIds (store : PromotionStore) : List ObjectId := store.audiences.map Prod.fst

section

variable {store after : PromotionStore}

theorem mem_audiences {promo : PromoCode} (member : promo ∈ store.promos) :
    (promo._id, promo.targetRoleIds) ∈ store.audiences :=
  List.mem_map_of_mem member

theorem mem_promoIds {promo : PromoCode} (member : promo ∈ store.promos) :
    promo._id ∈ store.promoIds :=
  List.mem_map.mpr ⟨_, mem_audiences member, rfl⟩

theorem audiences_setPromo {promoId : ObjectId}
    {change : PromoCode → PromoCode}
    (same : ∀ promo, ((change promo)._id, (change promo).targetRoleIds) =
      (promo._id, promo.targetRoleIds)) :
    (store.setPromo promoId change).audiences = store.audiences := by
  rw [audiences, setPromo, List.map_map]
  apply List.map_congr_left
  intro promo _
  simp only [Function.comp_apply]
  split
  · exact same promo
  · rfl

theorem audiences_countRedemption (promoId : ObjectId) (change : ℤ) :
    (store.countRedemption promoId change).audiences = store.audiences :=
  audiences_setPromo fun _ => rfl

/-- The codes are for whom they were for, and no row changes hands. -/
structure Retains (store after : PromotionStore) : Prop where
  audiences : after.audiences = store.audiences
  rows : ∀ row ∈ after.redemptions, ∃ old ∈ store.redemptions,
    old.promoId = row.promoId ∧ old.subjectType = row.subjectType

theorem Retains.refl (store : PromotionStore) : store.Retains store :=
  ⟨rfl, fun row member => ⟨row, member, rfl, rfl⟩⟩

theorem Retains.trans {middle : PromotionStore}
    (first : store.Retains middle) (second : middle.Retains after) :
    store.Retains after where
  audiences := second.audiences.trans first.audiences
  rows := by
    intro row member
    rcases second.rows row member with ⟨between, member', promo, type⟩
    rcases first.rows between member' with ⟨old, stored, promo', type'⟩
    exact ⟨old, stored, promo'.trans promo, type'.trans type⟩

theorem Retains.of_map {promos : List PromoCode}
    {change : PromoRedemption → PromoRedemption}
    (audiences : { store with promos }.audiences = store.audiences)
    (same : ∀ row, (change row).promoId = row.promoId ∧
      (change row).subjectType = row.subjectType) :
    store.Retains { promos, redemptions := store.redemptions.map change } where
  audiences := audiences
  rows := by
    intro row member
    rcases List.mem_map.mp member with ⟨old, stored, rfl⟩
    exact ⟨old, stored, (same old).1.symm, (same old).2.symm⟩

theorem retains_settleForOrder (orderId : ObjectId) :
    store.Retains (store.settleForOrder orderId) := by
  apply Retains.of_map rfl
  intro row
  split <;> exact ⟨rfl, rfl⟩

theorem retains_releaseRow (now : Instant) (row : PromoRedemption) :
    store.Retains (store.releaseRow now row) := by
  rw [releaseRow]
  split
  · apply Retains.of_map (audiences_countRedemption row.promoId (-1))
    intro other
    split <;> exact ⟨rfl, rfl⟩
  · exact .refl store

theorem retains_releaseAll (now : Instant) (held : List PromoRedemption) :
    store.Retains (store.releaseAll now held) := by
  induction held generalizing store with
  | nil => exact .refl store
  | cons row rest induction =>
    exact (retains_releaseRow now row).trans induction

end

end PromotionStore

/-- Where the roles of the codes, the rows and the redemptions in flight come from. -/
structure Effect (action : Action) (state next : State) : Prop where
  audiences : next.store.audiences = state.store.audiences ∨
    ∃ promoId input, action = .create promoId input ∧
      next.store.audiences = state.store.audiences ++ [(promoId, input.targetRoleIds)] ∧
      promoId ∉ state.store.promoIds
  rows : ∀ row ∈ next.store.redemptions,
    (∃ old ∈ state.store.redemptions, old.promoId = row.promoId ∧
      old.subjectType = row.subjectType) ∨
    (∃ promo held, .redemption promo held ∈ state.calls ∧ held.promoId = row.promoId) ∨
    row.subjectType = some .branch ∧ row.promoId ∈ state.store.promoIds
  calls : ∀ promo row, .redemption promo row ∈ next.calls →
    .redemption promo row ∈ state.calls ∨
    ∃ accounts now input status,
      (action = .redeem accounts now input ∨ action = .reserve accounts now input) ∧
      createRedemption accounts now input status state.store = .ok (.redemption promo row)

section

variable {action : Action} {state next : State} {store after : PromotionStore}

theorem Effect.of_retains (retains : state.store.Retains next.store)
    (calls : next.calls ⊆ state.calls) : Effect action state next where
  audiences := .inl retains.audiences
  rows := fun row member => .inl (retains.rows row member)
  calls := fun _ _ member => .inl (calls member)

variable {call : Call}

theorem Effect.begin (other : ∀ promo row, call ≠ .redemption promo row) :
    Effect action state (state.begin call) where
  audiences := .inl rfl
  rows := fun row member => .inl ⟨row, member, rfl, rfl⟩
  calls := by
    intro promo row member
    rcases List.mem_append.mp member with old | new
    · exact .inl old
    · exact (other promo row (List.mem_singleton.mp new).symm).elim

theorem Effect.redemption {accounts : Accounts} {now : Instant}
    {input : RedeemPromoInput} {status : PromoRedemptionStatus}
    (called : action = .redeem accounts now input ∨ action = .reserve accounts now input)
    (created : createRedemption accounts now input status state.store = .ok call) :
    Effect action state (state.begin call) where
  audiences := .inl rfl
  rows := fun row member => .inl ⟨row, member, rfl, rfl⟩
  calls := by
    intro promo row member
    rcases List.mem_append.mp member with old | new
    · exact .inl old
    · cases List.mem_singleton.mp new
      exact .inr ⟨accounts, now, input, status, called, created⟩

theorem PromotionStore.audiences_create {promoId : ObjectId}
    {input : CreatePromoInput}
    (created : store.create promoId input = .ok after) :
    after.audiences =
        store.audiences ++ [(promoId, input.targetRoleIds)] ∧
      after.redemptions = store.redemptions ∧ promoId ∉ store.promoIds := by
  rcases PromotionStore.create_ok created with ⟨fresh, rfl⟩
  refine ⟨?_, rfl, ?_⟩
  · rw [audiences, List.map_append]
    rfl
  · intro member
    rw [promoIds, audiences, List.map_map] at member
    rcases List.mem_map.mp member with ⟨promo, stored, same⟩
    exact fresh promo stored same

theorem Effect.transact {index : ℕ} {now : Instant}
    (flying : state.calls[index]? = some call)
    (committed : call.transact now state.store = .ok after) :
    Effect action state (state.commit index after) := by
  have ends : state.calls.eraseIdx index ⊆ state.calls :=
    fun _ member => List.mem_of_mem_eraseIdx member
  cases call with
  | redemption promo held =>
    rcases Call.transact_redemption committed with ⟨_, _, _, rfl⟩
    refine ⟨.inl (PromotionStore.audiences_countRedemption _ 1), ?_,
      fun _ _ member => .inl (ends member)⟩
    intro row member
    rcases List.mem_append.mp member with old | new
    · exact .inl ⟨row, old, rfl, rfl⟩
    · cases List.mem_singleton.mp new
      exact .inr (.inl ⟨promo, held, List.mem_of_getElem? flying, rfl⟩)
  | branch input =>
    rcases Call.transact_branch committed with
      rfl | ⟨promo, held, lookup, _, own, _, type, _, rfl⟩
    · exact .of_retains (.refl _) ends
    · refine ⟨.inl (PromotionStore.audiences_countRedemption _ 1), ?_,
        fun _ _ member => .inl (ends member)⟩
      intro row member
      rcases List.mem_append.mp member with old | new
      · exact .inl ⟨row, old, rfl, rfl⟩
      · cases List.mem_singleton.mp new
        have known := PromotionStore.mem_promoIds (PromotionStore.mem_of_findById lookup).1
        exact .inr (.inr ⟨type, own ▸ known⟩)
  | release orderId held =>
    cases committed
    exact .of_retains (PromotionStore.retains_releaseAll now held) ends

theorem step_effect (stepped : step action state = some next) :
    Effect action state next := by
  cases action with
  | create promoId input =>
    rcases Option.map_eq_some_iff.mp stepped with ⟨store, created, rfl⟩
    rcases PromotionStore.audiences_create (toOption_eq_some.mp created)
      with ⟨audiences, rows, fresh⟩
    refine ⟨.inr ⟨promoId, input, rfl, audiences, fresh⟩, ?_,
      fun _ _ member => .inl member⟩
    intro row member
    exact .inl ⟨row, rows ▸ member, rfl, rfl⟩
  | update promoId input =>
    rcases Option.map_eq_some_iff.mp stepped with ⟨store, updated, rfl⟩
    rcases PromotionStore.update_ok (toOption_eq_some.mp updated) with rfl
    exact .of_retains
      ⟨PromotionStore.audiences_setPromo fun _ => rfl,
        fun row member => ⟨row, member, rfl, rfl⟩⟩ fun _ member => member
  | setActive promoId isActive =>
    rcases Option.map_eq_some_iff.mp stepped with ⟨store, updated, rfl⟩
    rcases PromotionStore.setActive_ok (toOption_eq_some.mp updated) with
      rfl
    exact .of_retains
      ⟨PromotionStore.audiences_setPromo fun _ => rfl,
        fun row member => ⟨row, member, rfl, rfl⟩⟩ fun _ member => member
  | redeem accounts now input =>
    rcases Option.map_eq_some_iff.mp stepped with ⟨call, created, rfl⟩
    exact .redemption (.inl rfl) (toOption_eq_some.mp created)
  | reserve accounts now input =>
    rcases Option.map_eq_some_iff.mp stepped with ⟨call, created, rfl⟩
    exact .redemption (.inr rfl) (toOption_eq_some.mp created)
  | reserveForBranch | releaseForOrder =>
    cases stepped
    exact .begin fun _ _ same => by cases same
  | applyPlatformFeePromo now roleId input =>
    rcases Option.map_eq_some_iff.mp stepped with ⟨promo, _, rfl⟩
    exact .begin fun _ _ same => by cases same
  | settleForOrder orderId =>
    cases stepped
    exact .of_retains (PromotionStore.retains_settleForOrder orderId)
      fun _ member => member
  | commit index now =>
    simp only [Promotions.step] at stepped
    split at stepped
    · cases stepped
    · rename_i call flying
      split at stepped
      · cases stepped
        exact .of_retains (.refl _)
          fun _ member => List.mem_of_mem_eraseIdx member
      · rename_i store outcome
        cases stepped
        exact .transact flying outcome
  | crash index =>
    cases stepped
    exact .of_retains (.refl _)
      fun _ member => List.mem_of_mem_eraseIdx member

end

/-! ## Every run -/

/-- Ids are unique, and the rows and the redemptions in flight are of codes. -/
structure State.Listed (state : State) : Prop where
  identified : state.store.promoIds.Nodup
  rows : ∀ row ∈ state.store.redemptions, row.promoId ∈ state.store.promoIds
  calls : ∀ promo row, .redemption promo row ∈ state.calls → row.promoId ∈ state.store.promoIds

theorem createRedemption_redeemable {accounts : Accounts} {now : Instant}
    {input : RedeemPromoInput} {status : PromoRedemptionStatus}
    {store : PromotionStore} {promo : PromoCode} {row : PromoRedemption}
    (created : createRedemption accounts now input status store = .ok (.redemption promo row)) :
    promo ∈ store.promos ∧ row.promoId = promo._id ∧
      store.Redeemable now promo (accounts.redeemer input.customerUid)
        input.orderTotalCentavos := by
  rcases createRedemption_ok created with ⟨found, stored, name, discount, redeemable, same⟩
  cases same
  exact ⟨stored, rfl, redeemable⟩

theorem PromotionStore.Redeemable.targets {now : Instant}
    {promo : PromoCode} {accounts : Accounts} {customerUid : Uid}
    {orderTotalCentavos : ℚ} {store : PromotionStore} {account : Account}
    (redeemable : store.Redeemable now promo (accounts.redeemer customerUid) orderTotalCentavos)
    (known : accounts customerUid = some account)
    (orders : account.mayOrder = true) :
    ∃ roleId ∈ ORDERING_ROLES, roleId ∈ promo.targetRoleIds := by
  rcases redeemable.account with ⟨redeemer, roleId, redeemed, role, targeted, _⟩
  rw [Accounts.redeemer, known] at redeemed
  cases redeemed
  rw [Account.mayOrder, show account.roleId = some roleId from role] at orders
  exact ⟨roleId, List.contains_iff_mem.mp orders, targeted⟩

section

variable {action : Action} {state next : State} {promoId : ObjectId} {roles : List String}

theorem Effect.promoIds (effect : Effect action state next) :
    state.store.promoIds ⊆ next.store.promoIds := by
  intro promoId member
  rw [PromotionStore.promoIds] at member ⊢
  rcases effect.audiences with same | ⟨created, input, _, longer, _⟩
  · rwa [same]
  · rw [longer, List.map_append]
    exact List.mem_append_left _ member

theorem State.Listed.step (listed : state.Listed)
    (stepped : Promotions.step action state = some next) :
    next.Listed where
  identified := by
    have effect := step_effect stepped
    rw [PromotionStore.promoIds]
    rcases effect.audiences with same | ⟨created, input, _, longer, fresh⟩
    · rw [same]
      exact listed.identified
    · rw [longer, List.map_append]
      apply listed.identified.append (List.nodup_singleton _)
      intro other old new
      cases List.mem_singleton.mp new
      exact fresh old
  rows := by
    have effect := step_effect stepped
    intro row member
    apply effect.promoIds
    rcases effect.rows row member with
      ⟨old, stored, same, _⟩ | ⟨promo, held, flying, same⟩ | ⟨_, known⟩
    · exact same ▸ listed.rows old stored
    · exact same ▸ listed.calls promo held flying
    · exact known
  calls := by
    have effect := step_effect stepped
    intro promo row member
    apply effect.promoIds
    rcases effect.calls promo row member with
      flying | ⟨accounts, now, input, status, _, created⟩
    · exact listed.calls promo row flying
    · rcases createRedemption_redeemable created with ⟨stored, same, _⟩
      exact same ▸ PromotionStore.mem_promoIds stored

theorem State.Listed.of_reaches {admissible : State → Action → Prop}
    (reached : promotionSystem.Reaches admissible .start state) :
    state.Listed := by
  apply reached.invariant State.Listed
  · refine ⟨List.nodup_nil, ?_, ?_⟩
    · intro row member
      cases member
    · intro promo row member
      cases member
  · exact fun state action after listed _ stepped => listed.step stepped

/-- A code stays for the roles it was created for. -/
structure State.Offers (promoId : ObjectId) (roles : List String) (state : State) : Prop where
  listed : state.Listed
  offered : (promoId, roles) ∈ state.store.audiences

theorem State.Offers.step (offers : state.Offers promoId roles)
    (stepped : Promotions.step action state = some next) :
    next.Offers promoId roles where
  listed := offers.listed.step stepped
  offered := by
    rcases (step_effect stepped).audiences with same | ⟨_, _, _, longer, _⟩
    · rw [same]
      exact offers.offered
    · rw [longer]
      exact List.mem_append_left _ offers.offered

theorem State.Offers.targetRoleIds (offers : state.Offers promoId roles)
    {promo : PromoCode} (member : promo ∈ state.store.promos)
    (same : promo._id = promoId) : promo.targetRoleIds = roles := by
  have listed := PromotionStore.mem_audiences member
  have equal := List.inj_on_of_nodup_map offers.listed.identified listed offers.offered same
  exact congrArg Prod.snd equal

theorem State.Offers.withheld (offers : state.Offers promoId roles)
    (others : ∀ roleId ∈ ORDERING_ROLES, roleId ∉ roles) :
    state.store.Withheld promoId where
  invalid := by
    intro code promo found same accounts now customerUid account known
      orders total discount validated
    rw [PromotionStore.validate, found] at validated
    have redeemable := (PromotionStore.validateAgainst_ok.mp validated).1
    rcases redeemable.targets known orders with ⟨roleId, member, targeted⟩
    have target := offers.targetRoleIds (List.mem_of_find?_eq_some found) same
    exact others roleId member (target ▸ targeted)
  refused := by
    intro accounts now input status account known orders promo row created same
    rcases createRedemption_redeemable created with ⟨stored, owner, redeemable⟩
    rcases redeemable.targets known orders with ⟨roleId, member, targeted⟩
    have target := offers.targetRoleIds stored (owner.symm.trans same)
    exact others roleId member (target ▸ targeted)

/-- Only branches hold a code or are about to. -/
structure State.Reserved (promoId : ObjectId) (roles : List String) (state : State) : Prop where
  offers : state.Offers promoId roles
  rows : state.store.ForBranches promoId
  calls : ∀ promo row, .redemption promo row ∈ state.calls → row.promoId ≠ promoId

theorem State.Reserved.step (reserved : state.Reserved promoId roles)
    (others : ∀ roleId ∈ ORDERING_ROLES, roleId ∉ roles)
    (customers : byCustomers action = true)
    (stepped : Promotions.step action state = some next) :
    next.Reserved promoId roles where
  offers := reserved.offers.step stepped
  rows := by
    intro row member own
    rcases (step_effect stepped).rows row member with
      ⟨old, stored, same, type⟩ | ⟨promo, held, flying, same⟩ | ⟨type, _⟩
    · exact type ▸ reserved.rows old stored (same.trans own)
    · exact (reserved.calls promo held flying (same.trans own)).elim
    · exact type
  calls := by
    intro promo row member
    rcases (step_effect stepped).calls promo row member with
      flying | ⟨accounts, now, input, status, called, created⟩
    · exact reserved.calls promo row flying
    · have orders : (accounts input.customerUid).any Account.mayOrder =
          true := by
        rcases called with rfl | rfl <;> exact customers
      rcases (Option.any_eq_true _ _).mp orders with ⟨account, known, orders⟩
      exact (reserved.offers.withheld others).refused accounts now input
        status account known orders promo row created

theorem State.Listed.create {input : CreatePromoInput}
    (listed : state.Listed)
    (stepped : Promotions.step (.create promoId input) state = some next) :
    next.Reserved promoId input.targetRoleIds := by
  have after := listed.step stepped
  rcases Option.map_eq_some_iff.mp stepped with ⟨store, created, rfl⟩
  rcases PromotionStore.audiences_create (toOption_eq_some.mp created) with ⟨audiences, rows, fresh⟩
  refine ⟨⟨after, ?_⟩, ?_, ?_⟩
  · show _ ∈ store.audiences
    rw [audiences]
    exact List.mem_append_right _ (List.mem_singleton_self _)
  · intro row member own
    exact (fresh (own ▸ listed.rows row (rows ▸ member))).elim
  · intro promo row flying own
    exact fresh (own ▸ listed.calls promo row flying)

end

theorem Incentive.capPerSubject_pos {input : CreatePromoInput}
    (incentive : Incentive input) (promoId : ObjectId) :
    0 < (newPromo promoId input).capPerSubject := by
  simp only [PromoCode.capPerSubject, newPromo]
  cases newer : input.usageCapPerSubject with
  | none =>
    cases older : input.usageCapPerCustomer with
    | none => exact one_pos
    | some cap => exact Int.natCast_pos.mpr (incentive.customer cap older)
  | some cap => exact Int.natCast_pos.mpr (incentive.subject cap newer)

/-- The input of a code has room for a first use by anyone. -/
theorem Incentive.redeemable {input : CreatePromoInput}
    (incentive : Incentive input) (promoId : ObjectId)
    {redeemer : Redeemer} {roleId : String} {store : PromotionStore}
    (role : redeemer.roleId = some roleId)
    (targeted : roleId ∈ input.targetRoleIds)
    (fresh : redeemer.hasOrdered = false)
    (unused : store.usesByCustomer promoId redeemer.uid = 0) :
    store.Redeemable input.startsAt (newPromo promoId input) (some redeemer)
      (input.minOrderValueCentavos.getD 0 : ℕ) where
  active := rfl
  started := le_rfl
  unexpired := by
    intro expiry limited
    have created := incentive.creatable
    rw [assertCreatable] at created
    split_ifs at created with office percentage expired
    simp only [newPromo] at limited
    rw [limited] at expired
    simp only [Option.any_some, decide_eq_true_eq, not_le] at expired
    exact expired.le
  room := by
    rw [PromotionStore.exhausted, newPromo]
    cases limited : input.usageCapTotal with
    | none => rfl
    | some cap =>
      have positive := incentive.total cap limited
      simp only [Option.map_some, decide_eq_false_iff_not, not_le]
      exact Int.natCast_pos.mpr positive
  minimum := by
    intro minimum limited
    simp only [newPromo] at limited
    rcases Option.map_eq_some_iff.mp limited with ⟨least, same, rfl⟩
    rw [same]
    simp
  account := by
    refine ⟨redeemer, roleId, rfl, role, targeted, fun _ => fresh, ?_⟩
    have none : (store.usesByCustomer promoId redeemer.uid : ℤ) = 0 := by
      rw [unused]
      rfl
    rw [show (newPromo promoId input)._id = promoId from rfl, none]
    exact incentive.capPerSubject_pos promoId

/--
An accepted incentive is never valid for an account that can place orders, and never
redeemed by one, exactly if none of its roles is one that places orders.
-/
theorem incentive_withheld_iff (promoId : ObjectId)
    {input : CreatePromoInput} (incentive : Incentive input) :
    (∀ before created,
      promotionSystem.Reaches (fun _ _ => True) .start before →
      promotionSystem.step (.create promoId input) before = some created → (∀ later,
        promotionSystem.Reaches (fun _ _ => True) created later →
          later.store.Withheld promoId) ∧ ∀ later,
        promotionSystem.Reaches (fun _ action => byCustomers action = true)
            created later → later.store.ForBranches promoId) ↔
    ∀ roleId ∈ ORDERING_ROLES, roleId ∉ input.targetRoleIds := by
  constructor
  · intro withheld roleId member targeted
    -- In the empty store, a customer without orders redeems the code at its start.
    have created : promotionSystem.step (.create promoId input) .start =
        some { store :=
          { promos := [newPromo promoId input], redemptions := [] }
               calls := [] } := by
      simp [promotionSystem, step, PromotionStore.create,
        incentive.creatable, State.start, bind, Except.bind, Except.toOption]
    have invalid := ((withheld _ _ .refl created).1 _ .refl).invalid
    have found : PromotionStore.findByCode input.code
        { promos := [newPromo promoId input], redemptions := [] } =
          some (newPromo promoId input) := by
      simp [PromotionStore.findByCode, newPromo]
    let account : Account := { roleId := some roleId, hasOrdered := false, name := "" }
    apply invalid _ _ found rfl (fun _ => some account) input.startsAt ""
      account rfl (List.contains_iff_mem.mpr member)
      (input.minOrderValueCentavos.getD 0 : ℕ)
    rw [PromotionStore.validate, found]
    exact PromotionStore.validateAgainst_ok.mpr
      ⟨incentive.redeemable promoId rfl targeted rfl rfl, rfl⟩
  · intro others before created reached stepped
    have reserved := (State.Listed.of_reaches reached).create stepped
    constructor
    · intro later reached'
      have offers := reached'.invariant
        (State.Offers promoId input.targetRoleIds) reserved.offers
        fun _ _ _ offers _ stepped => offers.step stepped
      exact offers.withheld others
    · intro later reached'
      have reserved' := reached'.invariant
        (State.Reserved promoId input.targetRoleIds) reserved
        fun _ _ _ reserved customers stepped =>
          reserved.step others customers stepped
      exact reserved'.rows

def Desk.waiver : CreatePromoInput :=
  { Desk.halfOff with
    scope := some .platformFee
    discountType := .waive
    discountValue := 100 }

def Desk.partnerWaiver : CreatePromoInput :=
  { Desk.waiver with targetRoleIds := ["merchant", "washer"] }

/-- A waiver for merchants and washers stays theirs. -/
theorem incentive_withheld_iff_partners :
    Incentive Desk.partnerWaiver ∧
      ∀ before created,
        promotionSystem.Reaches (fun _ _ => True) .start before →
        promotionSystem.step (.create "promo" Desk.partnerWaiver) before = some created →
        (∀ later,
          promotionSystem.Reaches (fun _ _ => True) created later → later.store.Withheld "promo") ∧
        ∀ later,
          promotionSystem.Reaches (fun _ action => byCustomers action = true)
              created later →
            later.store.ForBranches "promo" := by
  have incentive : Incentive Desk.partnerWaiver := ⟨rfl, rfl, by decide, by decide, by decide⟩
  exact ⟨incentive, (incentive_withheld_iff "promo" incentive).mpr (by decide)⟩

/-- The waiver takes the whole order off, and the customer's row is recorded. -/
theorem incentive_redeemedByCustomer :
    Incentive Desk.waiver ∧
      ∃ created finish,
        promotionSystem.step (.create "promo" Desk.waiver) .start = some created ∧
        created.store.validate Desk.accounts 1 "HALF" "customer" 20000 = .ok 20000 ∧
        ¬ created.store.Withheld "promo" ∧
        promotionSystem.Reaches (fun _ action => byCustomers action = true) created finish ∧
        ¬ finish.store.ForBranches "promo" := by
  refine ⟨⟨rfl, rfl, by decide, by decide, by decide⟩, ?_⟩
  let created : State :=
    { store :=
        { promos := [newPromo "promo" Desk.waiver], redemptions := [] }
      calls := [] }
  have first : promotionSystem.step (.create "promo" Desk.waiver) .start =
      some created :=
    rfl
  have validated : created.store.validate Desk.accounts 1 "HALF" "customer" 20000 = .ok 20000 := by
    decide +kernel
  have performed : ((promotionSystem.restrict fun _ action =>
          byCustomers action = true).perform
        [.reserve Desk.accounts 1 (Desk.order "order"), .commit 0 2]
        created).map (fun state => state.store.redemptions.map fun row =>
          (row.promoId, row.subjectType)) = some [("promo", none)] := by
    decide +kernel
  rcases System.reaches_of_map_restrict performed with ⟨finish, ran, rows⟩
  refine ⟨created, finish, first, validated, ?_, ran, ?_⟩
  · intro withheld
    exact withheld.invalid "HALF" (newPromo "promo" Desk.waiver) rfl rfl
      Desk.accounts 1 "customer" _ rfl rfl 20000 20000 validated
  · intro branches
    rcases List.map_eq_singleton_iff.mp rows with ⟨row, recorded, own⟩
    simp only [Prod.mk.injEq] at own
    have branch := branches row (by simp [recorded]) own.1
    rw [own.2] at branch
    cases branch

end Lalaba.Promotions
