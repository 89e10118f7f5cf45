import Lalaba.Orders.CalledOff
import Lalaba.Orders.Migration
import Lalaba.Orders.QualityHold
import Lalaba.Orders.Weighing

/-!
# What a waiver waives

The platform fee has an ordinary part and a penalty, which an approved quality hold
adds to it.  A waiver is granted for the ordinary part, and is stored as an amount.
The fee of a penalty is only charged once the laundry is taken, and nothing is
weighed in after that: so a weigh-in that reprices the fee finds no penalty in it.
-/

namespace Lalaba.Orders

open Foundation
open Foundation.Program
open Promotions

/-! ## The parts of the fee -/

namespace OrderPricing

def feeCentavos (pricing : OrderPricing) : ℤ := pricing.platformFeeCentavos.getD 0

def penaltyCentavos (pricing : OrderPricing) : ℤ := pricing.platformFeeSurchargeCentavos.getD 0

/-- The penalty is a part of the fee, and a waiver is of the other part. -/
structure Split (pricing : OrderPricing) : Prop where
  nonneg : 0 ≤ pricing.penaltyCentavos
  within : pricing.penaltyCentavos ≤ pricing.feeCentavos
  waived : truthy pricing.platformFeePromoId = true →
    pricing.platformFeeDiscountCentavos.getD 0 = pricing.feeCentavos - pricing.penaltyCentavos

variable {pricing : OrderPricing}

theorem Split.waivable (split : pricing.Split) :
    pricing.waivablePlatformFeeCentavos = pricing.feeCentavos - pricing.penaltyCentavos := by
  have nonneg := split.nonneg
  have within := split.within
  show max 0 (max 0 pricing.feeCentavos - max 0 pricing.penaltyCentavos) = _
  omega

theorem Split.chargeable (split : pricing.Split)
    (waiver : truthy pricing.platformFeePromoId = true) :
    pricing.chargeablePlatformFeeCentavos = pricing.penaltyCentavos := by
  have nonneg := split.nonneg
  have within := split.within
  show max 0 (max 0 pricing.feeCentavos - max 0 (pricing.platformFeeDiscountCentavos.getD 0)) = _
  rw [split.waived waiver]
  omega

theorem Split.chargeable_le (split : pricing.Split) :
    pricing.chargeablePlatformFeeCentavos ≤ pricing.feeCentavos := by
  have nonneg := split.nonneg
  have within := split.within
  show max 0 (max 0 pricing.feeCentavos - max 0 (pricing.platformFeeDiscountCentavos.getD 0)) ≤ _
  omega

theorem Split.finalized {measured : Measurement}
    {lines : List ServiceLineSnapshot}
    (unpunished : pricing.penaltyCentavos = 0) :
    (pricing.finalized measured lines).Split := by
  have fee : 0 ≤ calculatePlatformFee (measured.serviceTotal lines)
      (pricing.platformFeePercent.getD 0) :=
    calculatePlatformFee_nonneg _ (Measurement.serviceTotal_nonneg _ _)
  have penalty : (pricing.finalized measured lines).penaltyCentavos = 0 := unpunished
  have within : (pricing.finalized measured lines).penaltyCentavos ≤
      (pricing.finalized measured lines).feeCentavos := by
    rw [penalty]
    exact fee
  refine ⟨penalty.ge, within, ?_⟩
  intro waiver
  have waived : (pricing.finalized measured lines).platformFeeDiscountCentavos =
        some (pricing.finalized measured lines).waivablePlatformFeeCentavos :=
    if_pos waiver
  rw [waived, Option.getD_some]
  show max 0 (max 0 (pricing.finalized measured lines).feeCentavos -
    max 0 (pricing.finalized measured lines).penaltyCentavos) = _
  omega

theorem Split.surcharge (split : pricing.Split) (chargeCentavos : ℕ) :
    (pricing.surcharge chargeCentavos).Split := by
  have charge : (0 : ℚ) ≤ roundCentavos chargeCentavos := by
    exact_mod_cast roundCentavos_nonneg (Nat.cast_nonneg chargeCentavos)
  have added : 0 ≤ calculatePlatformFee (roundCentavos chargeCentavos)
      (pricing.platformFeePercent.getD 0) :=
    calculatePlatformFee_nonneg _ charge
  have fee : (pricing.surcharge chargeCentavos).feeCentavos =
      pricing.feeCentavos + calculatePlatformFee
        (roundCentavos chargeCentavos)
        (pricing.platformFeePercent.getD 0) :=
    rfl
  have penalty : (pricing.surcharge chargeCentavos).penaltyCentavos =
      pricing.penaltyCentavos + calculatePlatformFee
        (roundCentavos chargeCentavos)
        (pricing.platformFeePercent.getD 0) :=
    rfl
  have nonneg := split.nonneg
  have within := split.within
  constructor
  · omega
  · omega
  · intro waiver
    have waived := split.waived waiver
    show pricing.platformFeeDiscountCentavos.getD 0 = _
    omega

theorem Split.grant (split : pricing.Split) (promo : PromoCode)
    {discountCentavos : ℤ}
    (all : discountCentavos = pricing.feeCentavos - pricing.penaltyCentavos) :
    ({ pricing with
      platformFeePromoId := some promo._id
      platformFeePromoCode := some promo.code
      platformFeeDiscountCentavos := some discountCentavos } : OrderPricing).Split where
  nonneg := split.nonneg
  within := split.within
  waived := fun _ => all

/-- The parts of the fee, which a run leaves alone. -/
structure Parted (fee penalty : ℤ) (pricing : OrderPricing) : Prop where
  split : pricing.Split
  fee : pricing.feeCentavos = fee
  penalty : pricing.penaltyCentavos = penalty

end OrderPricing

theorem OrderDocument.save_pricing {document saved : OrderDocument}
    {stored : Option OnlineOrder} {row : OnlineOrder}
    (ran : document.save stored = .ok (row, saved)) :
    row.pricing = document.order.pricing ∨
      ∃ old, stored = some old ∧ row.pricing = old.pricing := by
  rcases OrderDocument.save_cases ran with ⟨_, _, rfl⟩ | ⟨_, old, found, rfl⟩
  · exact .inl rfl
  · by_cases marked : .pricing ∈ document.modified
    · exact .inl (if_pos marked)
    · exact .inr ⟨old, found, if_neg marked⟩

section

variable {orderId : ObjectId} {clock : Clock} {callback : Callback}
  {memories rows : OrderPricing → Prop} {allowed : Touch → Prop}

/-- What holds of the price in memory, and of the stored one. -/
structure Billing (orderId : ObjectId)
    (memories rows : OrderPricing → Prop)
    (orders : Collection OnlineOrder) (document : OrderDocument) :
    Prop where
  identified : document.order._id = orderId
  memory : memories document.order.pricing
  row : ∀ row, orders.lookup orderId = some row → rows row.pricing ∨ memories row.pricing

theorem Billing.rests
    (consumed : ∀ pricing amount, memories pricing →
      memories { pricing with platformFeeConsumedCentavos := some amount })
    (granted : ∀ pricing (promo : PromoCode) discountCentavos,
      allowed (.grant promo discountCentavos) → memories pricing →
      memories { pricing with
          platformFeePromoId := some promo._id
          platformFeePromoCode := some promo.code
          platformFeeDiscountCentavos := some discountCentavos }) :
    Rests orderId allowed (fun session =>
      Billing orderId memories rows session.store.orders session.memory)
    where
  identified := fun _ billing => billing.identified
  beside := fun _ _ _ _ same billing => same ▸ billing
  save := by
    intro session row saved billing ran
    rw [OrderDocument.save_saved ran]
    refine ⟨billing.identified, billing.memory, ?_⟩
    intro stored found
    cases (AList.lookup_insert _).symm.trans found
    rcases OrderDocument.save_pricing ran with same | ⟨old, found', same⟩
    · rw [same]
      exact .inr billing.memory
    · rw [same]
      exact billing.row old found'
  update := by
    intro session expected patch store billing ran
    rcases updateOrder_ok.mp ran with ⟨row, found, _, rfl⟩
    refine ⟨billing.identified, billing.memory, ?_⟩
    intro stored found'
    cases (AList.lookup_insert _).symm.trans found'
    exact billing.row row found
  touch := by
    intro session touch allows billing
    refine ⟨?_, ?_, billing.row⟩
    · exact (touch.spares _).identified.trans billing.identified
    · cases touch with
      | consume amount => exact consumed _ amount billing.memory
      | grant promo discountCentavos =>
        exact granted _ promo discountCentavos allows billing.memory
      | patch | collect | reset | schedule => exact billing.memory

/-- Every run leaves the parts of the fee alone. -/
theorem Billing.parted {fee penalty : ℤ} : Keeps (fun session : Session Database OrderDocument =>
        Billing orderId (OrderPricing.Parted fee penalty) rows session.store.orders session.memory)
      (callback.program clock) := by
  have consumed : ∀ (pricing : OrderPricing) (amount : ℤ),
      pricing.Parted fee penalty →
      ({ pricing with platformFeeConsumedCentavos := some amount } :
        OrderPricing).Parted fee penalty := by
    rintro pricing amount ⟨split, rfl, rfl⟩
    exact ⟨⟨split.nonneg, split.within, split.waived⟩, rfl, rfl⟩
  by_cases accepts : ∃ actor status version washer, callback = .accept actor status version washer
  · -- The waiver is computed from the fee in memory.
    rcases accepts with ⟨actor, status, version, washer, rfl⟩
    have kept : Kept orderId
        (fun touch => ∀ promo discountCentavos,
          touch = .grant promo discountCentavos → discountCentavos = fee - penalty)
        (fun session : Session Database OrderDocument =>
          Billing orderId (OrderPricing.Parted fee penalty) rows
            session.store.orders session.memory) := by
      apply (Billing.rests consumed _).kept
      rintro pricing promo discountCentavos allows ⟨split, rfl, rfl⟩
      exact ⟨split.grant promo (allows _ _ rfl), rfl, rfl⟩
    apply kept.quiet.accept
    · intro _ _ resets
      cases resets
    · intro session promo billing _ _ same
      cases same
      have parted := billing.memory
      rw [parted.split.waivable, parted.fee, parted.penalty]
    · intro _ _ _ _ _ _ patches
      cases patches
  · have kept : Kept orderId callback.touches (fun session : Session Database OrderDocument =>
          Billing orderId (OrderPricing.Parted fee penalty) rows
            session.store.orders session.memory) := by
      apply (Billing.rests consumed _).kept
      intro pricing promo discountCentavos touches
      cases callback with
      | accept => exact (accepts ⟨_, _, _, _, rfl⟩).elim
      | _ => exact touches.elim
    exact kept.program

theorem Billing.punished {penalty : ℤ} : Keeps (fun session : Session Database OrderDocument =>
        Billing orderId (fun pricing => pricing.penaltyCentavos = penalty)
          (fun _ => True) session.store.orders session.memory)
      (callback.program clock) := by
  have kept : Kept orderId callback.touches (fun session : Session Database OrderDocument =>
        Billing orderId (fun pricing => pricing.penaltyCentavos = penalty)
          (fun _ => True) session.store.orders session.memory) := by
    apply (Billing.rests _ _).kept
    · exact fun _ _ same => same
    · exact fun _ _ _ _ same => same
  exact kept.program

end

def OrderStatus.taken (status : OrderStatus) : Prop :=
  status.phase = .custody ∨ status.phase = .handedOver

theorem OrderStatus.taken_of_transition {source target : OrderStatus}
    (taken : source.taken) (allowed : target ∈ source.transitions) :
    target.taken := by
  revert target
  cases source <;> revert taken <;> unfold OrderStatus.taken <;> decide

theorem Strides.taken {orderId : ObjectId} {origin current : OrderStatus}
    {last : ℕ} {rows : List OrderEvent}
    (strides : Strides orderId origin last rows current)
    (taken : origin.taken) : current.taken := by
  induction strides with
  | stay => exact taken
  | step row _ allowed _ _ _ _ induction =>
    exact OrderStatus.taken_of_transition induction allowed

theorem Callback.not_weighs_of_taken {callback : Callback}
    {status : OrderStatus} (taken : status.taken)
    (allowed : callback.aim ∈ status.transitions) : ¬ callback.weighs := by
  intro weighs
  cases callback with
  | recordWeight =>
    rcases Account.phase_of_weighed allowed with booked | weighed
    · rcases taken with custody | handedOver
      · exact absurd (booked.symm.trans custody) (by decide)
      · exact absurd (booked.symm.trans handedOver) (by decide)
    · rcases taken with custody | handedOver
      · exact absurd (weighed.symm.trans custody) (by decide)
      · exact absurd (weighed.symm.trans handedOver) (by decide)
  | receive =>
    have booked := Account.phase_of_received allowed
    rcases taken with custody | handedOver
    · exact absurd (booked.symm.trans custody) (by decide)
    · exact absurd (booked.symm.trans handedOver) (by decide)
  | _ => exact weighs.elim

theorem Callback.taken_of_aim {callback : Callback}
    {pickupMode : FulfillmentPickupMode} {status : OrderStatus}
    (taken : callback.aim.taken)
    (lands : (callback.targets pickupMode).getLast? = some status) :
    status.taken := by
  cases callback with
  | saveThenTransition =>
    cases lands
    exact taken
  | respond customerUid approve =>
    cases approve <;> rcases taken with phase | phase <;> cases phase
  | create | accept | recordWeight =>
    rcases taken with phase | phase <;> cases phase
  | recordPayment | receive | abandon =>
    cases lands
    exact .inl rfl
  | handOver =>
    cases lands
    exact .inr rfl

section

variable {orderId : ObjectId} {callback : Callback}
  {prepared document' : OrderDocument} {database after : Database}

theorem Advanced.taken
    (advanced : Advanced orderId callback prepared database after document')
    (taken : (∃ row, database.orders.lookup orderId = some row ∧ row.status.taken) ∨
      (callback.origin prepared).1.taken ∨ callback.aim.taken)
    {row : OnlineOrder}
    (found : after.orders.lookup orderId = some row) : row.status.taken := by
  rcases taken with ⟨old, found', taken⟩ | taken | taken
  · rcases advanced.stored with ⟨stored, found'', stands⟩
    cases found.symm.trans found''
    cases advanced with
    | opened _ _ _ absent =>
      rw [absent] at found'
      cases found'
    | moved other _ _ lookup _ striding =>
      cases found'.symm.trans lookup
      rcases striding.strides with ⟨_, _, strides, _⟩
      rw [show row.status = document'.order.status from congrArg Prod.fst stands]
      exact strides.taken taken
  · rcases advanced.stored with ⟨stored, found'', stands⟩
    cases found.symm.trans found''
    cases advanced with
    | opened _ _ booked _ _ =>
      rcases booked.creates with ⟨_, _, _, rfl⟩
      rcases booked.orders with ⟨_, _, _, _, _, _, _, rfl, _⟩
      rcases taken with phase | phase <;> cases phase
    | moved other _ _ _ same striding =>
      rcases striding.strides with ⟨_, _, strides, _⟩
      rw [show row.status = document'.order.status from congrArg Prod.fst stands]
      apply strides.taken
      rw [← same] at taken
      exact taken
  · rcases advanced.lands found with ⟨_, lands⟩
    exact Callback.taken_of_aim taken lands

end

/-! ## What the calls hold of the fee -/

/--
A transaction has a fee in its two parts, unless it weighs in what was already taken;
and if there is a penalty in it, the laundry was taken, or is about to be.
-/
structure Charged (callback : Callback) (prepared document : OrderDocument) : Prop where
  split : document.order.pricing.Split ∨ callback.weighs ∧ (callback.origin prepared).1.taken
  penalty : document.order.pricing.penaltyCentavos ≠ 0 →
    (callback.origin prepared).1.taken ∨ callback.aim.taken

def OrderPricing.Clean (pricing : OrderPricing) : Prop :=
  pricing.Split ∧ pricing.penaltyCentavos = 0

def Call.Waives : Call → Prop
  | .transaction _ callback prepared document =>
    Charged callback prepared document
  | .save document =>
    .pricing ∈ document.modified → document.order.pricing.Clean
  | .reserve _ document => document.order.pricing.Clean
  | .audit _ => True

def OnlineOrder.Waives (order : OnlineOrder) : Prop :=
  order.pricing.Split ∧ (order.pricing.penaltyCentavos ≠ 0 → order.status.taken)

theorem buildServiceLineSnapshot_nonneg {market : Market}
    {providerType : ProviderType} {branchId : ObjectId}
    {washer : Option WasherProfile} (line : OrderServiceLineInput) :
    Yields (buildServiceLineSnapshot market providerType branchId washer line)
      fun snapshot => 0 ≤ snapshot.estimatedLineTotalCentavos := by
  apply Yields.bind
  rintro ⟨_, params⟩ _
  apply Yields.bind
  intro surcharge _
  apply Yields.pure
  have price : (0 : ℚ) ≤ calculateServiceLineTotal params
      line.estimatedWeightKg line.estimatedPieceCount :=
    Int.cast_nonneg (calculateServiceLineTotal_nonneg _ _ _)
  exact add_nonneg price (NNRat.coe_nonneg _)

theorem createOrder_clean {market : Market} {clock : Clock}
    {customer : User} {input : CreateOrderInput} {orderId : ObjectId}
    {database : Database} :
    Yields (createOrder market clock customer input orderId database)
      (fun drafted => drafted.2.order.pricing.Clean) := by
  intro drafted ordered
  rcases createOrder_yields _ ordered with
    ⟨_, serviceLines, estimate, discount, _, total, _, built, _, _, rfl⟩
  have lines := mapM_yields buildServiceLineSnapshot_nonneg _ _ built
  have subtotal : 0 ≤ estimate.serviceSubtotalCentavos := by
    rw [total]
    apply List.sum_nonneg
    intro amount member
    rcases List.mem_map.mp member with ⟨line, listed, rfl⟩
    exact lines line listed
  have fee : 0 ≤ estimate.feeCentavos := calculatePlatformFee_nonneg _ subtotal
  refine ⟨⟨le_refl _, fee, ?_⟩, rfl⟩
  intro waiver
  cases waiver

section

variable {orderId : ObjectId} {state after : State} {action : Action}
  {clock : Clock} {environment : Environment} {actor : User}
  {database : Database} {row : OnlineOrder} {operation : Operation}
  {callback : Callback} {prepared document document' : OrderDocument}

theorem Operation.Edits.pricing {order : OnlineOrder}
    (edits : operation.Edits clock row order) :
    (∃ estimatedTotalCentavos, order.pricing = { row.pricing with estimatedTotalCentavos }) ∨
    (∃ measured, operation.measures = some measured ∧
      order.pricing = row.pricing.finalized measured row.serviceLines) ∨
    (∃ approve hold, operation = .respondToQualityHold approve ∧
      order.pricing = (row.resolveHold clock hold approve).pricing) := by
  unfold Operation.Edits at edits
  split at edits
  · exact .inl edits.2
  · exact .inr (.inl ⟨_, rfl, edits.2⟩)
  · exact .inr (.inl ⟨_, rfl, edits.2⟩)
  · exact .inl ⟨_, edits.2.1⟩
  · rcases edits with ⟨hold, _, _, same⟩
    exact .inr (.inr ⟨_, hold, rfl, same⟩)
  · rcases edits with ⟨_, _, _, _, _, same⟩
    exact .inl ⟨_, same⟩
  · exact .inl ⟨_, edits.2⟩

theorem OrderPricing.Split.resolveHold {hold : QualityHold} {approve : Bool}
    (split : row.pricing.Split) :
    (row.resolveHold clock hold approve).pricing.Split := by
  rw [OnlineOrder.resolveHold]
  split
  · split
    · exact split.surcharge _
    · exact split
  · exact split

theorem Drafted.charged
    (drafted : Drafted actor row operation callback document)
    (edited : Edited clock row operation document)
    (weighs : ∀ measured, operation.measures = some measured → callback.weighs)
    (waives : row.Waives) : Charged callback document document := by
  rcases waives with ⟨split, taken⟩
  have origin : (callback.origin document).1 = row.status := congrArg Prod.fst drafted.fits.place
  rcases edited.edits.pricing with ⟨_, same⟩ | ⟨measured, measures, same⟩ | ⟨_, hold, rfl, same⟩
  · constructor
    · rw [same]
      exact .inl ⟨split.nonneg, split.within, split.waived⟩
    · rw [same, origin]
      exact fun penalty => .inl (taken penalty)
  · constructor
    · rw [same, origin]
      by_cases unpunished : row.pricing.penaltyCentavos = 0
      · exact .inl (.finalized unpunished)
      · exact .inr ⟨weighs measured measures, taken unpunished⟩
    · rw [same, origin]
      exact fun penalty => .inl (taken penalty)
  · constructor
    · rw [same]
      exact .inl split.resolveHold
    · intro _
      have aim : callback.aim = .laundryInProgress := (Option.some.inj drafted.aims).symm
      rw [aim]
      exact .inr (.inl rfl)

theorem Charged.run {budget : Option ℕ}
    (charged : Charged callback prepared document) :
    Charged callback prepared
      ((callback.program clock).runOnce budget database document).2.memory := by
  constructor
  · rcases charged.split with split | blocked
    · have kept : Keeps (fun session : Session Database OrderDocument =>
          Billing document.order._id
            (OrderPricing.Parted document.order.pricing.feeCentavos
              document.order.pricing.penaltyCentavos) (fun _ => True)
            session.store.orders session.memory)
          (callback.program clock) :=
        Billing.parted
      have billed := kept ⟨database, database, document, budget⟩
        ⟨rfl, ⟨split, rfl, rfl⟩, fun _ _ => .inl trivial⟩
      exact .inl billed.memory.split
    · exact .inr blocked
  · have kept : Keeps (fun session : Session Database OrderDocument =>
        Billing document.order._id
          (fun pricing => pricing.penaltyCentavos =
            document.order.pricing.penaltyCentavos) (fun _ => True)
          session.store.orders session.memory)
        (callback.program clock) :=
      Billing.punished
    have billed := kept ⟨database, database, document, budget⟩ ⟨rfl, rfl, fun _ _ => .inl trivial⟩
    intro penalty
    apply charged.penalty
    rw [← billed.memory]
    exact penalty

theorem Charged.split_of_advanced {after : Database}
    (charged : Charged callback prepared document)
    (advanced : Advanced orderId callback prepared database after
      document') : document.order.pricing.Split := by
  rcases charged.split with split | ⟨weighs, taken⟩
  · exact split
  · cases advanced with
    | opened _ _ booked =>
      rcases booked.creates with ⟨_, _, _, rfl⟩
      exact weighs.elim
    | moved row _ _ _ same striding =>
      rw [← same] at taken
      exact (Callback.not_weighs_of_taken taken striding.allowed weighs).elim

theorem Charged.commits {after : Database}
    (charged : Charged callback prepared document)
    (waives : ∀ row, database.orders.lookup orderId = some row → row.Waives)
    (about : document.order._id = orderId)
    (advanced : Advanced orderId callback prepared database after document')
    (outcome : (callback.program clock).commit database document = (.ok (), after, document')) :
    (∀ row, after.orders.lookup orderId = some row → row.Waives) ∧
      document'.order.pricing.Parted document.order.pricing.feeCentavos
        document.order.pricing.penaltyCentavos := by
  have split := charged.split_of_advanced advanced
  have kept : Keeps (fun session : Session Database OrderDocument =>
      Billing orderId
        (OrderPricing.Parted document.order.pricing.feeCentavos
          document.order.pricing.penaltyCentavos)
        (fun pricing => pricing.Split ∧ (pricing.penaltyCentavos ≠ 0 →
          ∃ row, database.orders.lookup orderId = some row ∧ row.status.taken))
        session.store.orders session.memory)
      (callback.program clock) :=
    Billing.parted
  have billed := @Keeps.committed _ _ _ _
    (fun (store : Database) memory => Billing orderId _ _ store.orders memory) _ _ _ _ _ _ kept
    ⟨about, ⟨split, rfl, rfl⟩, fun row found =>
      .inl ⟨(waives row found).1, fun penalty =>
        ⟨row, found, (waives row found).2 penalty⟩⟩⟩ outcome
  refine ⟨?_, billed.memory⟩
  intro row found
  rcases billed.row row found with ⟨split', taken⟩ | parted
  · exact ⟨split', fun penalty => advanced.taken (.inl (taken penalty)) found⟩
  · refine ⟨parted.split, fun penalty => ?_⟩
    rw [parted.penalty] at penalty
    exact advanced.taken (.inr (charged.penalty penalty)) found

theorem Charged.follows {after : Database} {started : Option Operation}
    {call : Call} (charged : Charged callback prepared document)
    (advanced : Advanced orderId callback prepared database after document')
    (parted : document'.order.pricing.Parted document.order.pricing.feeCentavos
      document.order.pricing.penaltyCentavos)
    (followed : callback.followUp started document' = some call) :
    call.Waives := by
  unfold Callback.followUp at followed
  split at followed
  · cases followed
    refine ⟨.inl parted.split, fun penalty => .inl ?_⟩
    have same : document'.order.pricing.penaltyCentavos =
        document.order.pricing.penaltyCentavos := parted.penalty
    rcases advanced.stored with ⟨row, found, stands⟩
    have taken : row.status.taken := by
      apply advanced.taken (.inr (charged.penalty ?_)) found
      rw [← same]
      exact penalty
    rw [show row.status = document'.order.status from congrArg Prod.fst stands] at taken
    exact taken
  · cases followed
    refine ⟨parted.split, ?_⟩
    rw [parted.penalty]
    by_contra penalty
    rcases charged.penalty penalty with taken | taken
    · cases advanced with
      | opened _ _ booked =>
        rcases booked.orders with ⟨_, _, _, _, _, _, _, rfl, _⟩
        rcases taken with phase | phase <;> cases phase
      | moved _ _ existing => exact existing _ _ _ rfl
    · rcases taken with phase | phase <;> cases phase
  · cases followed

theorem Call.Waives.begun {call : Call}
    (waives : ∀ row, state.database.orders.lookup orderId = some row → row.Waives)
    (sound : ∀ other ∈ state.calls, other.orderId = orderId → other.Waives)
    (begun : Begun orderId state action after call)
    (about : call.orderId = orderId) : call.Waives := by
  cases begun with
  | booked _ _ _ _ _ document _ ordered =>
    have clean := createOrder_clean _ ordered
    exact ⟨.inl clean.1, fun penalty => (penalty clean.2).elim⟩
  | drafted environment clock actor method row callback document _ _ _ found prepares =>
    have drafted : Drafted actor row method callback document := method.drafts _ prepares
    rcases method.edited _ prepares with ⟨edited, _⟩
    apply drafted.charged edited _ (waives row found)
    intro measured measures
    rcases weighed_of_prepare measures _ prepares with ⟨_, _, same, weighed⟩
    cases same
    exact weighed.weighs
  | amended environment clock actor method row document _ _ prepares =>
    have amended : Amended row document := method.drafts _ prepares
    intro marked
    have clean := amended.clean marked
    simp at clean
  | audited => trivial
  | aborted index budget clock operation callback prepared document _ flying =>
    have confined := @Callback.confined clock callback state.database document (some budget)
    have about' : document.order._id = orderId := confined.identified.symm.trans about
    have charged : Charged callback prepared document :=
      sound _ (List.mem_of_getElem? flying) about'
    exact charged.run
  | reserved index environment clock claim document promoId _ flying =>
    have clean : document.order.pricing.Clean := sound _ (List.mem_of_getElem? flying) about
    rcases clean with ⟨split, unpunished⟩
    exact fun _ =>
      ⟨⟨split.nonneg, split.within, split.waived⟩, unpunished⟩

end

theorem waiver_obligations (orderId : ObjectId) :
    Obligations orderId (Timely orderId) (OnTime orderId)
      (fun state => ∀ row, state.database.orders.lookup orderId = some row →
        row.Waives) (fun _ call => call.Waives) where
  beside := by
    intro state after beside waives row found
    rw [beside.same.row] at found
    exact waives row found
  steady := fun _ _ _ _ _ waives => waives
  begun := fun _ _ _ _ _ invariant _ _ begun about =>
    .begun invariant.good invariant.sound begun about
  commit := by
    intro state index environment clock operation callback prepared document
      database document' onTime invariant timely flying about charged outcome
    have read := onTime.sound _ (List.mem_of_getElem? flying) about
    have advanced := read.commits timely flying about outcome
    rcases charged.commits invariant.good about advanced outcome with ⟨waives, parted⟩
    exact ⟨⟨waives, fun _ _ _ sound => sound⟩,
      fun call followed => charged.follows advanced parted followed⟩
  save := by
    intro state index environment clock document row saved onTime invariant
      timely flying about waives outcome
    have read := onTime.sound _ (List.mem_of_getElem? flying) about
    rcases read.saves timely flying about outcome with ⟨old, found, rfl, stands⟩
    refine ⟨?_, fun _ _ _ sound => sound⟩
    intro other found'
    cases (AList.lookup_insert _).symm.trans found'
    have status : (document.writeTo old).status = old.status := congrArg Prod.fst stands
    rw [OnlineOrder.Waives, status]
    by_cases marked : .pricing ∈ document.modified
    · rcases waives marked with ⟨split, unpunished⟩
      rw [show (document.writeTo old).pricing = document.order.pricing from if_pos marked]
      exact ⟨split, fun penalty => (penalty unpunished).elim⟩
    · rw [show (document.writeTo old).pricing = old.pricing from if_neg marked]
      exact invariant.good old found

theorem split_of_reaches
    {castToObjectId : String → Option ObjectId} {orderId : ObjectId}
    {state : State} {row : OnlineOrder}
    (reached : (orderSystem castToObjectId).Reaches (Timely orderId) .start state)
    (found : state.database.orders.lookup orderId = some row) :
    row.pricing.Split := by
  have invariant := (waiver_obligations orderId).reaches
    (fun _ reached => onTime_of_reaches (fun _ _ timely => timely) reached)
    (by
      intro row found
      simp [State.start] at found)
    reached
  exact (invariant.good row found).1

/--
In a timely run a waiver waives the ordinary fee and nothing else: what is charged
of an order with a waiver is the penalty, and of any order it is no more than the
fee.
-/
theorem waiversWaiveTheOrdinaryFee
    {castToObjectId : String → Option ObjectId} {orderId : ObjectId}
    {state : State} {row : OnlineOrder}
    (reached : (orderSystem castToObjectId).Reaches (Timely orderId) .start state)
    (found : state.database.orders.lookup orderId = some row) :
    (truthy row.pricing.platformFeePromoId = true →
        row.pricing.chargeablePlatformFeeCentavos =
          row.pricing.platformFeeSurchargeCentavos.getD 0) ∧
      0 ≤ row.pricing.chargeablePlatformFeeCentavos ∧
      row.pricing.chargeablePlatformFeeCentavos ≤
        row.pricing.platformFeeCentavos.getD 0 := by
  have split := split_of_reaches reached found
  exact ⟨split.chargeable, OrderPricing.chargeablePlatformFeeCentavos_nonneg _, split.chargeable_le⟩

namespace Shop

def waived (pickupMode : FulfillmentPickupMode) : List Action :=
  funding ++ [.editPromos [feeWaiver]] ++
    placing (booking pickupMode .customerSelfPickup) ++
    calls owner .acceptOrder

def treatment : RaiseQualityHoldInput :=
  { stained true with additionalChargeCentavos := some 100000 }

def weighs (weight : ℚ≥0) : Operation :=
  .recordPickupWeight { measured := { actualWeightKg := some weight } }

def overtakes (actor : User) (operation : Operation) : List Action :=
  [requests actor operation, .commit 1 environment (clock 2)]

end Shop

/-- An approved treatment is charged, and the ordinary fee still is not. -/
theorem waiversWaiveTheOrdinaryFee_treatment :
    ∃ state row,
      (orderSystem some).Reaches (Timely "order") .start state ∧
        state.database.orders.lookup "order" = some row ∧
        row.pricing.platformFeeSurchargeCentavos = some 10000 ∧
        ((truthy row.pricing.platformFeePromoId = true →
            row.pricing.chargeablePlatformFeeCentavos =
              row.pricing.platformFeeSurchargeCentavos.getD 0) ∧
          0 ≤ row.pricing.chargeablePlatformFeeCentavos ∧
          row.pricing.chargeablePlatformFeeCentavos ≤ row.pricing.platformFeeCentavos.getD 0) := by
  have performed :
      (((orderSystem some).restrict (Timely "order")).perform
        (Shop.waived .customerDropoff ++
          Shop.calls Shop.owner (.receiveAtCounter Shop.deferred) ++
          Shop.calls Shop.owner (.raiseQualityHold Shop.treatment) ++
          Shop.calls Shop.customer (.respondToQualityHold true))
        .start).bind (fun state =>
          (state.database.orders.lookup "order").map fun row =>
            row.pricing.platformFeeSurchargeCentavos) =
        some (some 10000) := by
    decide +kernel
  rcases System.reaches_of_bind_restrict performed with ⟨state, reached, seen⟩
  rcases Option.map_eq_some_iff.mp seen with ⟨row, found, penalty⟩
  exact ⟨state, row, reached, found, penalty, waiversWaiveTheOrdinaryFee reached found⟩

/--
A weigh-in is aborted once its order is moved in memory, and another one commits in
its place.  When a treatment has been approved the first one is run again: the order
is back on the scale, and one kilo is weighed in.
-/
def weighedAgain : List Action :=
  Shop.waived .providerPickup ++
    Shop.calls Shop.owner (.assignPickupStaff "courier") ++
    Shop.calls Shop.courier .startPickupRoute ++
    Shop.calls Shop.courier .arriveAtPickup ++
    [Shop.requests Shop.courier (Shop.weighs 4), Shop.aborts 1] ++
    Shop.overtakes Shop.courier (Shop.weighs 4) ++
    Shop.overtakes Shop.courier (.recordPickupPayment { paymentTiming := some .atFinalHandover }) ++
    Shop.overtakes Shop.owner (.raiseQualityHold Shop.treatment) ++
    Shop.overtakes Shop.customer (.respondToQualityHold true) ++
    [Shop.proceeds] ++
    Shop.calls Shop.courier (Shop.weighs 1)

/-- The waiver of the order has waived most of its penalty. -/
theorem penaltyWaived :
    ¬ ∀ (orderId : ObjectId) (state : State) (row : OnlineOrder),
        (orderSystem some).Reaches (fun _ _ => True) .start state →
        state.database.orders.lookup orderId = some row →
        (truthy row.pricing.platformFeePromoId = true →
            row.pricing.chargeablePlatformFeeCentavos =
              row.pricing.platformFeeSurchargeCentavos.getD 0) ∧
          0 ≤ row.pricing.chargeablePlatformFeeCentavos ∧
          row.pricing.chargeablePlatformFeeCentavos ≤
            row.pricing.platformFeeCentavos.getD 0 := by
  intro always
  have performed : ((orderSystem some).perform weighedAgain .start).bind (fun state =>
        (state.database.orders.lookup "order").map fun row =>
          (row.pricing.platformFeePromoId,
            row.pricing.chargeablePlatformFeeCentavos,
            row.pricing.platformFeeSurchargeCentavos)) =
        some (some "waiver", 500, some 10000) := by
    decide +kernel
  rcases System.reaches_of_bind performed with ⟨state, ran, seen⟩
  rcases Option.map_eq_some_iff.mp seen with ⟨row, found, amounts⟩
  simp only [Prod.mk.injEq] at amounts
  rcases amounts with ⟨waiver, charged, penalty⟩
  have penaltyOnly := (always "order" state row ran found).1
  rw [waiver, charged, penalty] at penaltyOnly
  exact absurd (penaltyOnly rfl) (by decide)

end Lalaba.Orders
