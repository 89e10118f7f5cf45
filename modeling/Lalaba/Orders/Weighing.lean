import Lalaba.Orders.Editing
import Lalaba.Orders.Conservation

/-!
# What the scale is billed for

The scale is read for the whole order, or line by line.  A reading for the order counts
for every line that has none of its own, and of several readings for one service the
last counts for all of its lines; a line without any reading is priced all the same.
-/

namespace Lalaba.Orders

open Foundation
open Foundation.Program

/-! ## Quantities -/

def PricingType.quantity (pricingType : PricingType) (weight : Option ℚ≥0)
    (pieces : Option ℕ) : Option ℚ≥0 :=
  match pricingType with
  | .perKilo => weight
  | .perPiece => Option.map Nat.cast pieces
  | .perLoad => none
  | .perLoadWithCapacity => weight
  | .perKiloWithBase => weight

def ServiceLineSnapshot.weighed (line : ServiceLineSnapshot) : Bool :=
  line.pricingType == .perKilo || line.pricingType == .perKiloWithBase

namespace Measurement

def quantityBy (measured : Measurement) (entry : Option LineActual)
    (line : ServiceLineSnapshot) : Option ℚ≥0 :=
  line.pricingType.quantity
    ((entry.bind LineActual.actualWeightKg).or measured.actualWeightKg)
    ((entry.bind LineActual.actualPieceCount).or measured.actualPieceCount)

def quantityOf (measured : Measurement) (line : ServiceLineSnapshot) :
    Option ℚ≥0 :=
  line.pricingType.quantity (measured.weightOf line) (measured.piecesOf line)

def kilos (measured : Measurement) (lines : List ServiceLineSnapshot) :
    ℚ≥0 :=
  ((lines.filter ServiceLineSnapshot.weighed).map fun line =>
    (measured.weightOf line).getD 0).sum

/--
The line's own entry: those for a service are meant for the lines of this service, in
their order.
-/
def entryAt (measured : Measurement) (lines : List ServiceLineSnapshot)
    (index : ℕ) : Option LineActual :=
  lines[index]?.bind fun line =>
    (measured.lineActuals.filter fun actual =>
      actual.serviceRefId == line.serviceRefId)[(lines.take index).countP fun earlier =>
          earlier.serviceRefId == line.serviceRefId]?

variable {measured : Measurement} {line : ServiceLineSnapshot}
  {lines : List ServiceLineSnapshot} {weight : ℚ≥0}

theorem quantityOf_eq :
    measured.quantityOf line = measured.quantityBy (measured.lineActual line) line := by
  have weights : measured.weightOf line =
      ((measured.lineActual line).bind LineActual.actualWeightKg).or
        measured.actualWeightKg := by
    rw [weightOf]
    split
    · rename_i own found
      rw [found, Option.some_or]
    · rename_i none
      rw [none, Option.none_or]
  have counts : measured.piecesOf line =
      ((measured.lineActual line).bind LineActual.actualPieceCount).or
        measured.actualPieceCount := by
    rw [piecesOf]
    split
    · rename_i own found
      rw [found, Option.some_or]
    · rename_i none
      rw [none, Option.none_or]
  rw [quantityOf, quantityBy, weights, counts]

theorem exists_last {index : ℕ} {entry : LineActual}
    (placed : lines[index]? = some line)
    (own : measured.entryAt lines index = some entry) :
    ∃ last, measured.lineActual line = some last := by
  rw [entryAt, placed, Option.bind_some] at own
  have member := List.mem_filter.mp (List.mem_of_getElem? own)
  rw [← Option.isSome_iff_exists, lineActual, List.find?_isSome]
  exact ⟨entry, List.mem_reverse.mpr member.1, member.2⟩

theorem weightOf_scale :
    ({ actualWeightKg := some weight } : Measurement).weightOf line =
      some weight :=
  rfl

theorem kilos_scale :
    ({ actualWeightKg := some weight } : Measurement).kilos lines =
      (lines.filter ServiceLineSnapshot.weighed).length • weight := by
  rw [kilos]
  simp only [weightOf_scale, Option.getD_some]
  rw [List.map_const', List.sum_replicate]

theorem weights_scale :
    ({ actualWeightKg := some weight } : Measurement).weights lines =
      List.replicate (lines.filter ServiceLineSnapshot.weighed).length
        weight := by
  rw [weights]
  induction lines with
  | nil => rfl
  | cons line rest induction =>
    rw [List.filterMap_cons, List.filter_cons, induction]
    by_cases weighs : line.pricingType = .perKilo ∨ line.pricingType = .perKiloWithBase
    · have weighed : line.weighed = true := by
        simpa [ServiceLineSnapshot.weighed] using weighs
      rw [if_pos weighs, if_pos weighed, weightOf_scale, List.length_cons, List.replicate_succ]
    · have light : line.weighed ≠ true := by
        simpa [ServiceLineSnapshot.weighed] using weighs
      rw [if_neg weighs, if_neg light]

end Measurement

theorem nsmul_eq_self {times : ℕ} {weight : ℚ≥0} :
    times • weight = weight ↔ weight = 0 ∨ times = 1 := by
  rw [nsmul_eq_mul]
  constructor
  · intro same
    rcases eq_or_ne weight 0 with nothing | some
    · exact .inl nothing
    · right
      have one : (times : ℚ≥0) = 1 := (mul_eq_right₀ some).mp same
      exact_mod_cast one
  · rintro (rfl | rfl)
    · exact mul_zero _
    · rw [Nat.cast_one, one_mul]

/-- A reading for the order is billed once, and a line by its own entry. -/
structure BilledOnce (measured : Measurement) (document : OrderDocument) : Prop where
  scale : ∀ weight, measured = { actualWeightKg := some weight } →
    measured.kilos document.order.serviceLines = weight ∧
      (finalizePricing measured document).order.pricing.actualWeightKg = some weight
  own : ∀ (index : ℕ) line entry,
    document.order.serviceLines[index]? = some line →
    measured.entryAt document.order.serviceLines index = some entry →
    measured.quantityOf line = measured.quantityBy (some entry) line

/--
One line is weighed when the scale is read for the order, or the scale shows nothing;
and the entries of the lines of one service say what the last one for it says.
-/
structure ReadOnce (measured : Measurement) (lines : List ServiceLineSnapshot) : Prop where
  scale : ∀ weight, measured = { actualWeightKg := some weight } →
    weight = 0 ∨ (lines.filter ServiceLineSnapshot.weighed).length = 1
  entries : ∀ (index : ℕ) line entry last, lines[index]? = some line →
    measured.entryAt lines index = some entry →
    measured.lineActual line = some last →
    measured.quantityBy (some last) line = measured.quantityBy (some entry) line

theorem finalized_scale {weight : ℚ≥0} {lines : List ServiceLineSnapshot}
    {pricing : OrderPricing} :
    (pricing.finalized { actualWeightKg := some weight } lines).actualWeightKg =
      if (lines.filter ServiceLineSnapshot.weighed).length = 0 then
        some weight
      else
        some ((lines.filter ServiceLineSnapshot.weighed).length • weight)
    := by
  rw [OrderPricing.finalized]
  simp only [Measurement.weights_scale, List.replicate_eq_nil_iff, List.sum_replicate]

def ServiceLinePricingParams.unmeasured
    (params : ServiceLinePricingParams) : ℚ :=
  match params.pricingType with
  | .perKilo => (params.minBillableKg.getD 0 : ℚ≥0) * params.price
  | .perPiece => 0
  | .perLoad => params.price
  | .perLoadWithCapacity => params.price
  | .perKiloWithBase =>
    params.price + max 0
      ((params.minBillableKg.getD 0 : ℚ≥0) - (params.baseKilos.getD 0 : ℚ≥0) : ℚ) *
      (params.excessRate.getD 0 : ℚ≥0)

namespace ServiceLineSnapshot

def estimatedServicePrice (line : ServiceLineSnapshot) : ℚ :=
  line.estimatedLineTotalCentavos - line.productSurchargeCentavos

def finalServicePrice (line : ServiceLineSnapshot) : Option ℚ :=
  line.actualLineTotalCentavos.map fun total =>
    total - line.productSurchargeCentavos

def Chargeable (line : ServiceLineSnapshot) : Prop :=
  0 < line.price ∧ 0 < line.estimatedServicePrice ∧ line.pricingType ≠ .perLoad

def SilentZero (measured : Measurement) (line : ServiceLineSnapshot) :
    Prop :=
  line.Chargeable ∧ measured.quantityOf line = none ∧ line.finalServicePrice = some 0

instance (measured : Measurement) (line : ServiceLineSnapshot) :
    Decidable (line.SilentZero measured) :=
  inferInstanceAs (Decidable ((_ ∧ _ ∧ _) ∧ _ ∧ _))

def Priced (measured : Measurement) (line : ServiceLineSnapshot) : Prop :=
  line.Chargeable → (measured.quantityOf line).isSome = true ∨ 1 / 2 ≤ line.unmeasured

end ServiceLineSnapshot

theorem billableKg_none {minBillableKg : Option ℚ≥0} :
    billableKg none minBillableKg = (minBillableKg.getD 0 : ℚ≥0) := by
  cases minBillableKg with
  | none => rfl
  | some minimum =>
    rw [billableKg, Option.getD_some]
    split
    · rename_i nothing
      rw [nothing]
      rfl
    · exact max_eq_right (NNRat.coe_nonneg minimum)

theorem loadsFor_none {capacityKg : Option ℚ≥0} : loadsFor none capacityKg = 1 := by
  cases capacityKg with
  | none => rfl
  | some capacity =>
    rw [loadsFor]
    split
    · rfl
    · rw [Option.getD_none, NNRat.coe_zero, zero_div, Int.ceil_zero]
      rfl

theorem calculateServiceLineTotal_unmeasured
    {params : ServiceLinePricingParams} {weight : Option ℚ≥0}
    {pieces : Option ℕ}
    (missing : params.pricingType.quantity weight pieces = none) :
    calculateServiceLineTotal params weight pieces = roundCentavos params.unmeasured := by
  rw [calculateServiceLineTotal, ServiceLinePricingParams.unmeasured]
  cases type : params.pricingType with
  | perKilo =>
    rw [type] at missing
    have missing : weight = none := missing
    rw [missing, billableKg_none]
  | perPiece =>
    rw [type] at missing
    have missing : pieces = none := Option.map_eq_none_iff.mp missing
    simp [missing]
  | perLoad => rfl
  | perLoadWithCapacity =>
    rw [type] at missing
    have missing : weight = none := missing
    rw [missing, loadsFor_none, Int.cast_one, one_mul]
  | perKiloWithBase =>
    rw [type] at missing
    have missing : weight = none := missing
    simp only [missing, billableKg_none]

theorem unmeasured_nonneg (params : ServiceLinePricingParams) : 0 ≤ params.unmeasured := by
  have price : (0 : ℚ) ≤ params.price := NNRat.coe_nonneg _
  rw [ServiceLinePricingParams.unmeasured]
  cases params.pricingType with
  | perKilo => exact mul_nonneg (NNRat.coe_nonneg _) price
  | perPiece => exact le_refl 0
  | perLoad | perLoadWithCapacity => exact price
  | perKiloWithBase =>
    exact add_nonneg price (mul_nonneg (le_max_left _ _) (NNRat.coe_nonneg _))

theorem roundCentavos_eq_zero {value : ℚ} (nonneg : 0 ≤ value) :
    roundCentavos value = 0 ↔ value < 1 / 2 := by
  rw [roundCentavos, Int.floor_eq_zero_iff, Set.mem_Ico]
  constructor
  · rintro ⟨_, below⟩
    linarith
  · intro below
    constructor <;> linarith

section

variable {measured : Measurement} {line : ServiceLineSnapshot} {lines : List ServiceLineSnapshot}

def Measurement.finalLine (measured : Measurement)
    (line : ServiceLineSnapshot) : ServiceLineSnapshot :=
  { line with actualLineTotalCentavos := some (measured.lineTotal line) }

theorem finalServicePrice_finalLine :
    (measured.finalLine line).finalServicePrice =
      some (calculateServiceLineTotal line.toServiceLinePricingParams
        (measured.weightOf line) (measured.piecesOf line) : ℚ) := by
  rw [ServiceLineSnapshot.finalServicePrice, Measurement.finalLine,
    Option.map_some, Measurement.lineTotal, add_sub_cancel_right]

theorem silentZero_finalLine :
    (measured.finalLine line).SilentZero measured ↔ ¬ line.Priced measured := by
  have same : (measured.finalLine line).SilentZero measured ↔
      line.Chargeable ∧ measured.quantityOf line = none ∧
        (measured.finalLine line).finalServicePrice = some 0 :=
    Iff.rfl
  rw [same, finalServicePrice_finalLine, ServiceLineSnapshot.Priced,
    Classical.not_imp, not_or, Bool.not_eq_true, Option.isSome_eq_false_iff,
    Option.isNone_iff_eq_none, not_le, Option.some.injEq, Int.cast_eq_zero]
  refine and_congr_right fun _ => and_congr_right fun missing => ?_
  rw [calculateServiceLineTotal_unmeasured missing, roundCentavos_eq_zero (unmeasured_nonneg _)]

end

/-! ## From the weigh-in to the row -/

def Operation.measures : Operation → Option Measurement
  | .recordPickupWeight input => some input.measured
  | .receiveAtCounter input => some input.measured
  | _ => none

def Callback.weighs : Callback → Prop
  | .recordWeight _ | .receive _ _ _ => True
  | _ => False

/-- A document as a weigh-in hands it to its transaction. -/
structure Weighed (measured : Measurement) (row : OnlineOrder)
    (callback : Callback) (document : OrderDocument) : Prop where
  weighs : callback.weighs
  identified : document.order._id = row._id
  lines : document.order.serviceLines = row.serviceLines.map measured.finalLine
  inserted : document.isNew = false
  marked : .serviceLines ∈ document.modified

section

variable {environment : Environment} {clock : Clock} {actor : User}
  {database : Database} {row : OnlineOrder} {operation : Operation}
  {measured : Measurement} {callback : Callback}

theorem weighed_of_proof {document : OrderDocument}
    {objectKeys : List String} {actorUid : Uid}
    (weighs : callback.weighs)
    (is : document = applyHandoverProof clock .pickup objectKeys actorUid
      (finalizePricing measured (.ofRow row))) :
    Weighed measured row callback document := by
  subst is
  rcases applyHandoverProof_eq clock .pickup objectKeys actorUid
      (finalizePricing measured (.ofRow row)) with ⟨_, _, _, same, _⟩
  rw [same]
  constructor
  · exact weighs
  · rfl
  · rfl
  · rfl
  · simp [finalizePricing]

theorem weighed_of_prepare (measures : operation.measures = some measured) :
    Yields (operation.prepare environment clock actor database row)
      (fun prepared => ∃ callback document,
        prepared = .transaction callback document ∧ Weighed measured row callback document) := by
  unfold Operation.measures at measures
  split at measures
  · cases measures
    apply Yields.bind
    intro _ _
    apply Yields.pure
    exact ⟨_, _, rfl, weighed_of_proof trivial rfl⟩
  · cases measures
    apply Yields.bind
    intro _ _
    apply Yields.bind
    intro _ _
    apply Yields.pure
    refine ⟨_, _, rfl, ?_⟩
    rcases @weighed_of_proof clock row _ (.receive actor _ _) _ _ _
        trivial rfl with ⟨weighs, identified, lines, inserted, marked⟩
    exact ⟨weighs, identified, lines, inserted, Finset.mem_insert_of_mem marked⟩
  · cases measures

end

section

variable {orderId : ObjectId} {lines : List ServiceLineSnapshot}
  {allowed : Touch → Prop} {clock : Clock} {callback : Callback}

/-- The document of a run has these lines. -/
structure Lined (orderId : ObjectId) (lines : List ServiceLineSnapshot)
    (document : OrderDocument) : Prop where
  identified : document.order._id = orderId
  same : document.order.serviceLines = lines

theorem Lined.rests :
    Rests orderId allowed (fun session => Lined orderId lines session.memory)
    where
  identified := fun _ lined => lined.identified
  beside := fun _ _ _ _ _ lined => lined
  save := by
    intro session row saved lined ran
    rw [OrderDocument.save_saved ran]
    exact ⟨lined.identified, lined.same⟩
  update := fun _ _ _ _ lined _ => lined
  touch := by
    intro session touch _ lined
    have spares := touch.spares session.memory
    exact ⟨spares.identified.trans lined.identified, spares.lines.trans lined.same⟩

/-- The stored row has these lines too, and none is left to write. -/
structure Inscribed (orderId : ObjectId) (lines : List ServiceLineSnapshot)
    (orders : Collection OnlineOrder) (document : OrderDocument) :
    Prop extends Lined orderId lines document where
  inserted : document.isNew = false
  clean : .serviceLines ∉ document.modified
  row : ∀ row, orders.lookup orderId = some row → row.serviceLines = lines

theorem Inscribed.rests : Rests orderId allowed (fun session =>
        Inscribed orderId lines session.store.orders session.memory) where
  identified := fun _ inscribed => inscribed.identified
  beside := fun _ _ _ _ same inscribed => same ▸ inscribed
  save := by
    intro session row saved inscribed ran
    rcases OrderDocument.save_ok inscribed.inserted ran with ⟨old, found, rfl, rfl⟩
    refine ⟨⟨inscribed.identified, inscribed.same⟩, rfl,
      by simp [OrderDocument.saved], ?_⟩
    intro stored found'
    cases (AList.lookup_insert _).symm.trans found'
    show OrderDocument.pick _ .serviceLines _ _ = lines
    rw [OrderDocument.pick, if_neg inscribed.clean]
    exact inscribed.row old found
  update := by
    intro session expected patch store inscribed ran
    rcases updateOrder_ok.mp ran with ⟨row, found, _, rfl⟩
    refine ⟨⟨inscribed.identified, inscribed.same⟩, inscribed.inserted, inscribed.clean, ?_⟩
    intro stored found'
    cases (AList.lookup_insert _).symm.trans found'
    exact inscribed.row row found
  touch := by
    intro session touch _ inscribed
    have spares := touch.spares session.memory
    exact ⟨⟨spares.identified.trans inscribed.identified,
        spares.lines.trans inscribed.same⟩, spares.inserted.trans inscribed.inserted,
      fun again => inscribed.clean (spares.marked _ rfl again),
      inscribed.row⟩

theorem inscribed_of_save {document : OrderDocument}
    (lined : Lined orderId lines document)
    (inserted : document.isNew = false)
    (marked : .serviceLines ∈ document.modified) :
    Ensures (fun _ memory => memory = document) saveDocument (fun _ (store : Database) memory =>
        Inscribed orderId lines store.orders memory) := by
  apply ensures_saveDocument
  rintro store _ row saved rfl ran
  rcases OrderDocument.save_ok inserted ran with ⟨old, _, rfl, rfl⟩
  refine ⟨⟨lined.identified, lined.same⟩, rfl,
    by simp [OrderDocument.saved], ?_⟩
  intro stored found
  rw [lined.identified] at found
  cases (AList.lookup_insert _).symm.trans found
  exact (if_pos marked).trans lined.same

theorem inscribed_of_commit {database after : Database}
    {document finish : OrderDocument} (weighs : callback.weighs)
    (lined : Lined orderId lines document)
    (inserted : document.isNew = false)
    (marked : .serviceLines ∈ document.modified)
    (outcome : (callback.program clock).commit database document = (.ok (), after, finish)) :
    Inscribed orderId lines after.orders finish := by
  rcases commit_ok.mp outcome with ⟨session, ran, rfl, rfl⟩
  have kept : ∀ allowed, Kept orderId allowed (fun session : Session Database OrderDocument =>
        Inscribed orderId lines session.store.orders session.memory) :=
    fun _ => Inscribed.rests.kept
  have saves := inscribed_of_save lined inserted marked
  cases callback with
  | recordWeight courier =>
    rcases run_bind_ok.mp ran with ⟨_, middle, saved, rest⟩
    apply Keeps.ran _ (saves _ _ _ rfl rfl saved).2 rest
    apply ((kept fun _ => True).consumeOutstandingFee
      fun _ => trivial).bind
    intro _
    exact (kept fun _ => True).quiet.applyTransition fun _ _ => trivial
  | receive actor input collectNow =>
    rcases run_bind_ok.mp ran with ⟨_, middle, saved, rest⟩
    apply Keeps.ran _ (saves _ _ _ rfl rfl saved).2 rest
    apply ((kept fun _ => True).collectNowOrLater fun _ => trivial).bind
    intro _
    apply ((kept fun _ => True).consumeOutstandingFee
      fun _ => trivial).bind
    intro _
    apply ((kept fun _ => True).quiet.applyTransition
      fun _ _ => trivial).bind
    intro _
    exact (kept fun _ => True).quiet.applyTransition fun _ _ => trivial
  | _ => exact weighs.elim

end

/--
A weigh-in that commits leaves no silent zero exactly if every line gets its quantity or
is billed without it; what it leaves is what it writes, unless its run was aborted.
-/
theorem noSilentZero {environment : Environment} {clock clock' : Clock}
    {actor : User} {database store after : Database} {row : OnlineOrder}
    {operation : Operation} {measured : Measurement} {callback : Callback}
    {document finish : OrderDocument} {aborts : List ℕ}
    (measures : operation.measures = some measured)
    (prepares : operation.prepare environment clock actor database row =
      .ok (.transaction callback document))
    (commits : (callback.program clock').withTransaction aborts store
      document = (.ok (), after, finish)) :
    ((∀ line ∈ finish.order.serviceLines, ¬ line.SilentZero measured) ↔
        ∀ line ∈ row.serviceLines, line.Priced measured) ∧
      (aborts = [] → ∀ stored, after.orders.lookup row._id = some stored →
          stored.serviceLines = finish.order.serviceLines) := by
  rcases weighed_of_prepare measures _ prepares with ⟨_, _, same, weighed⟩
  cases same
  have start : Lined row._id (row.serviceLines.map measured.finalLine)
      document := ⟨weighed.identified, weighed.lines⟩
  have ended : Lined row._id (row.serviceLines.map measured.finalLine)
      finish := by
    have keeps : Keeps (fun session : Session Database OrderDocument =>
          Lined row._id (row.serviceLines.map measured.finalLine)
            session.memory) (callback.program clock') :=
      Lined.rests.kept.program
    have kept := @withTransaction_memory _ _ _ _ _ _ keeps aborts store _ start
    rw [commits] at kept
    exact kept
  constructor
  · rw [ended.same, List.forall_mem_map]
    refine forall₂_congr fun line _ => ?_
    rw [silentZero_finalLine, not_not]
  · rintro rfl stored found
    have inscribed := inscribed_of_commit weighed.weighs start
      weighed.inserted weighed.marked commits
    exact (inscribed.row stored found).trans ended.same.symm

def Operation.weighIn (environment : Environment) (clock : Clock)
    (actor : User) (database : Database) (row : OnlineOrder)
    (operation : Operation) : Option (Database × OrderDocument) :=
  match operation.prepare environment clock actor database row with
  | .ok (.transaction callback document) =>
    match (callback.program clock).withTransaction [] database document with
    | (.ok (), after, finish) => some (after, finish)
    | (.error _, _) => none
  | _ => none

theorem Operation.weighIn_eq_some {environment : Environment}
    {clock : Clock} {actor : User} {database after : Database}
    {row : OnlineOrder} {operation : Operation} {finish : OrderDocument} :
    operation.weighIn environment clock actor database row =
        some (after, finish) ↔
      ∃ callback document,
        operation.prepare environment clock actor database row =
          .ok (.transaction callback document) ∧
        (callback.program clock).withTransaction [] database document =
          (.ok (), after, finish) := by
  unfold Operation.weighIn
  constructor
  · intro weighs
    split at weighs
    · rename_i callback document prepared
      split at weighs
      · rename_i after' finish' committed
        cases weighs
        exact ⟨callback, document, prepared, committed⟩
      · cases weighs
    · cases weighs
  · rintro ⟨callback, document, prepared, committed⟩
    simp only [prepared, committed]

def Shop.twoLines : CreateOrderInput :=
  { booking .customerDropoff .customerSelfPickup with
    serviceLines :=
      [{ serviceRefId := "wash", estimatedWeightKg := some 2 },
        { serviceRefId := "wash", estimatedWeightKg := some 2 }] }

def Shop.scale : Measurement := { actualWeightKg := some 4 }

/-- Four kilos at the counter are billed. -/
theorem noSilentZero_counter :
    ∃ state row after finish,
      (orderSystem some).Reaches (fun _ _ => True) .start state ∧
        state.database.orders.lookup "order" = some row ∧
        (Operation.receiveAtCounter Shop.deferred).weighIn
            Shop.environment (Shop.clock 2) Shop.owner state.database row =
          some (after, finish) ∧
        ∀ line ∈ finish.order.serviceLines, ¬ line.SilentZero Shop.deferred.measured := by
  have performed : ((orderSystem some).perform Shop.accepted .start).bind (fun state =>
        (state.database.orders.lookup "order").bind fun row =>
          ((Operation.receiveAtCounter Shop.deferred).weighIn
              Shop.environment (Shop.clock 2) Shop.owner state.database
              row).map fun _ =>
            decide (∀ line ∈ row.serviceLines,
              (Shop.deferred.measured.quantityOf line).isSome = true)) =
        some true := by
    decide +kernel
  rcases System.reaches_of_bind performed with ⟨state, ran, seen⟩
  rcases Option.bind_eq_some_iff.mp seen with ⟨row, found, weighs⟩
  rcases Option.map_eq_some_iff.mp weighs with ⟨⟨after, finish⟩, weighed, measured⟩
  rcases Operation.weighIn_eq_some.mp weighed with ⟨callback, document, prepares, commits⟩
  have priced : ∀ line ∈ row.serviceLines,
      line.Priced Shop.deferred.measured :=
    fun line member _ => .inl (of_decide_eq_true measured line member)
  exact ⟨state, row, after, finish, ran, found,
    weighed, (noSilentZero rfl prepares commits).1.mpr priced⟩

def Shop.unweighed : RecordCollectionInput := { paymentTiming := some .atFinalHandover }

/-- Four kilos that nobody weighs at the counter are washed for nothing. -/
theorem silentZero :
    ¬ ∀ (state : State) (row : OnlineOrder) (environment : Environment)
        (clock : Clock) (actor : User) (operation : Operation)
        (measured : Measurement) (after : Database)
        (finish : OrderDocument),
        (orderSystem some).Reaches (fun _ _ => True) .start state →
        state.database.orders.lookup "order" = some row →
        operation.measures = some measured →
        operation.weighIn environment clock actor state.database row = some (after, finish) →
        ∀ line ∈ finish.order.serviceLines, ¬ line.SilentZero measured := by
  intro always
  have performed : ((orderSystem some).perform Shop.accepted .start).bind (fun state =>
        (state.database.orders.lookup "order").bind fun row =>
          ((Operation.receiveAtCounter Shop.unweighed).weighIn
              Shop.environment (Shop.clock 2) Shop.owner state.database
              row).map fun weighed =>
            decide (∀ line ∈ weighed.2.order.serviceLines,
              ¬ line.SilentZero Shop.unweighed.measured)) =
        some false := by
    decide +kernel
  rcases System.reaches_of_bind performed with ⟨state, ran, seen⟩
  rcases Option.bind_eq_some_iff.mp seen with ⟨row, found, weighs⟩
  rcases Option.map_eq_some_iff.mp weighs with ⟨⟨after, finish⟩, weighed, silent⟩
  exact of_decide_eq_false silent
    (always state row Shop.environment (Shop.clock 2) Shop.owner _ _ after
      finish ran found rfl weighed)

end Lalaba.Orders
