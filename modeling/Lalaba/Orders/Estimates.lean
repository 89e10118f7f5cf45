import Lalaba.Orders.History

/-!
# What was booked and what is collected

The terms of an order are written once, with the row: whatever a document in memory
says, no save and no transition of any run changes them.  The estimate adds the
terms up and subtracts the discount; the price that the scale gives adds the same
components up again, and forgets the discount.
-/

namespace Lalaba.Orders

open Foundation
open Foundation.Program

namespace Terms

def estimatedServiceTotal (terms : Terms) : ℚ :=
  (terms.lines.map LineTerms.estimatedLineTotalCentavos).sum

def total (terms : Terms) (serviceTotal : ℚ) : ℚ :=
  serviceTotal +
      calculatePlatformFee serviceTotal (terms.platformFeePercent.getD 0) +
    (terms.pickupFeeCentavos.getD 0 : ℕ) +
    (terms.returnFeeCentavos.getD 0 : ℕ) +
    (terms.turnaroundFeeCentavos.getD 0 : ℕ) -
    terms.discountCentavos.getD 0

def AddUp (terms : Terms) : Prop :=
  terms.estimatedTotalCentavos = terms.total terms.estimatedServiceTotal

def Undiscounted (terms : Terms) : Prop := terms.discountCentavos.getD 0 = 0

end Terms

theorem newOrder_estimatedServiceTotal {orderId : ObjectId}
    {customer : User} {input : CreateOrderInput}
    {provider : BookableProvider}
    {serviceLines : List ServiceLineSnapshot} {estimate : Estimate}
    {code : Option String} {discount : ℚ}
    (subtotal : estimate.serviceSubtotalCentavos =
      (serviceLines.map ServiceLineSnapshot.estimatedLineTotalCentavos).sum) :
    (newOrder orderId customer input provider serviceLines estimate code
      discount).terms.estimatedServiceTotal =
        estimate.serviceSubtotalCentavos := by
  rw [subtotal]
  simp only [newOrder, OnlineOrder.terms, termsOf, Terms.estimatedServiceTotal, List.map_map]
  rfl

theorem newOrder_addUp {orderId : ObjectId} {customer : User}
    {input : CreateOrderInput} {provider : BookableProvider}
    {serviceLines : List ServiceLineSnapshot} {estimate : Estimate}
    {code : Option String} {discount : ℚ}
    (subtotal : estimate.serviceSubtotalCentavos =
      (serviceLines.map ServiceLineSnapshot.estimatedLineTotalCentavos).sum) :
    (newOrder orderId customer input provider serviceLines estimate code discount).terms.AddUp := by
  have discounted : (newOrder orderId customer input provider serviceLines
      estimate code discount).terms.discountCentavos.getD 0 = discount := by
    show (if discount = 0 then none else some discount).getD 0 = discount
    split
    · rename_i nothing
      exact nothing.symm
    · rfl
  rw [Terms.AddUp, Terms.total, newOrder_estimatedServiceTotal subtotal, discounted]
  rfl

theorem finalizePricing_total (measured : Measurement)
    (document : OrderDocument) :
    (finalizePricing measured document).order.pricing.customerTotalCentavos =
      some (document.order.terms.total
          (measured.serviceTotal document.order.serviceLines) +
        document.order.terms.discountCentavos.getD 0) := by
  rw [Terms.total, sub_add_cancel]
  rfl

theorem serviceTotal_of_estimated {measured : Measurement}
    {document : OrderDocument}
    (estimated : ∀ line ∈ (finalizePricing measured document).order.serviceLines,
      line.actualLineTotalCentavos = some line.estimatedLineTotalCentavos) :
    measured.serviceTotal document.order.serviceLines =
      document.order.terms.estimatedServiceTotal := by
  simp only [OnlineOrder.terms, termsOf, Terms.estimatedServiceTotal,
    List.map_map, Measurement.serviceTotal]
  congr 1
  apply List.map_congr_left
  intro line member
  have weighed := estimated
    { line with actualLineTotalCentavos := some (measured.lineTotal line) }
    (List.mem_map.mpr ⟨line, member, rfl⟩)
  exact Option.some.inj weighed

/-! ## What a document may write -/

def OrderDocument.Honours (terms : Terms) (callback : Callback)
    (document : OrderDocument) : Prop :=
  document.order.terms = terms ∨
    callback.chargeless ∧ .pricing ∉ document.modified ∧ document.order.terms.SameBut terms

theorem termsOf_congr {lines other : List ServiceLineSnapshot}
    {pricing : OrderPricing}
    (same : lines.map ServiceLineSnapshot.terms = other.map ServiceLineSnapshot.terms) :
    termsOf lines pricing = termsOf other pricing := by
  rw [termsOf, termsOf, same]

theorem OrderDocument.terms_writeTo {terms : Terms} {document : OrderDocument}
    {row : OnlineOrder} (stored : row.terms = terms)
    (lines : document.order.terms.lines = terms.lines)
    (priced : .pricing ∈ document.modified → document.order.terms = terms) :
    (document.writeTo row).terms = terms := by
  subst stored
  have picked : (document.pick .serviceLines document.order.serviceLines
      row.serviceLines).map ServiceLineSnapshot.terms =
        row.serviceLines.map ServiceLineSnapshot.terms := by
    rw [OrderDocument.pick]
    split
    · exact lines
    · rfl
  show termsOf (document.pick .serviceLines document.order.serviceLines
      row.serviceLines)
    (document.pick .pricing document.order.pricing row.pricing) = row.terms
  by_cases marked : .pricing ∈ document.modified
  · have pricing : document.pick .pricing document.order.pricing
        row.pricing = document.order.pricing :=
      if_pos marked
    rw [pricing, ← priced marked]
    exact termsOf_congr (picked.trans lines.symm)
  · have pricing : document.pick .pricing document.order.pricing
        row.pricing = row.pricing :=
      if_neg marked
    rw [pricing]
    exact termsOf_congr picked

def OnlineOrder.On (terms : Terms) (row : OnlineOrder) : Prop := row.terms = terms ∧ terms.AddUp

/-- A session in which the order is on these terms, whatever is written next. -/
structure Honoured (orderId : ObjectId) (terms : Terms)
    (callback : Callback) (database : Database) (document : OrderDocument) :
    Prop where
  identified : document.order._id = orderId
  honours : document.Honours terms callback
  inserts : document.isNew = true → document.order.On terms
  row : ∀ row, database.orders.lookup orderId = some row → row.On terms

section

variable {orderId : ObjectId} {terms : Terms} {callback : Callback}
  {database after : Database} {document document' : OrderDocument}

theorem OrderDocument.Honours.lines
    (honours : document.Honours terms callback) :
    document.order.terms.lines = terms.lines := by
  rcases honours with same | ⟨_, _, other⟩
  · rw [same]
  · rw [Terms.SameBut] at other
    have lines := congrArg Terms.lines other
    exact lines

theorem OrderDocument.Honours.priced
    (honours : document.Honours terms callback) :
    .pricing ∈ document.modified → document.order.terms = terms := by
  intro marked
  rcases honours with same | ⟨_, clean, _⟩
  · exact same
  · exact (clean marked).elim

theorem OrderDocument.save_on {row : OnlineOrder}
    (lines : document.order.terms.lines = terms.lines)
    (priced : .pricing ∈ document.modified → document.order.terms = terms)
    (inserts : document.isNew = true → document.order.On terms)
    (on : ∀ row, database.orders.lookup orderId = some row → row.On terms)
    (ran : document.save (database.orders.lookup orderId) =
      .ok (row, document')) : row.On terms := by
  rcases OrderDocument.save_cases ran with ⟨isNew, _, rfl⟩ | ⟨_, old, found, rfl⟩
  · exact inserts isNew
  · rcases on old found with ⟨stored, adds⟩
    exact ⟨OrderDocument.terms_writeTo stored lines priced, adds⟩

theorem OrderDocument.Honours.charged
    (honours : document.Honours terms callback)
    (charges : ¬ callback.chargeless) : document.order.terms = terms := by
  rcases honours with same | ⟨chargeless, _⟩
  · exact same
  · exact (charges chargeless).elim

/-- No run takes the order off its terms. -/
theorem Honoured.rests :
    Rests orderId callback.touches
      (fun session => Honoured orderId terms callback session.store session.memory) where
  identified := fun _ honoured => honoured.identified
  beside := by
    intro session store durable budget same honoured
    refine ⟨honoured.identified, honoured.honours, honoured.inserts, ?_⟩
    rw [same]
    exact honoured.row
  save := by
    intro session row saved honoured ran
    have written := OrderDocument.save_on honoured.honours.lines
      honoured.honours.priced honoured.inserts honoured.row ran
    have clean := OrderDocument.save_saved ran
    subst clean
    refine ⟨honoured.identified, ?_, nofun, ?_⟩
    · rcases honoured.honours with same | ⟨chargeless, _, other⟩
      · exact .inl same
      · exact .inr ⟨chargeless, Finset.notMem_empty _, other⟩
    · intro stored found
      cases (AList.lookup_insert _).symm.trans found
      exact written
  update := by
    intro session expected patch store honoured ran
    rcases updateOrder_ok.mp ran with ⟨row, found, _, rfl⟩
    refine ⟨honoured.identified, honoured.honours, honoured.inserts, ?_⟩
    intro stored found'
    cases (AList.lookup_insert _).symm.trans found'
    exact honoured.row row found
  touch := by
    intro session touch touches honoured
    refine ⟨?_, ?_, ?_, honoured.row⟩
    · cases touch <;> exact honoured.identified
    · cases touch with
      | patch applied =>
        rcases honoured.honours with same | ⟨chargeless, clean, other⟩
        · exact .inl same
        · refine .inr ⟨chargeless, ?_, other⟩
          intro marked
          rcases Finset.mem_union.mp marked with old | new
          · exact clean old
          · exact pricing_not_mem_paths applied new
      | _ =>
        left
        have charges : ¬ callback.chargeless := by
          cases callback <;> first | exact id | cases touches
        exact honoured.honours.charged charges
    · intro isNew
      have before : session.memory.isNew = true := by
        cases touch <;> exact isNew
      cases touch <;> exact honoured.inserts before

theorem Honoured.commits {clock : Clock}
    (honoured : Honoured orderId terms callback database document)
    (outcome : (callback.program clock).commit database document = (.ok (), after, document')) :
    Honoured orderId terms callback after document' :=
  @Keeps.committed _ _ _ _ (fun (store : Database) (memory : OrderDocument) =>
      Honoured orderId terms callback store memory)
    _ _ _ _ _ _ Honoured.rests.kept.program honoured outcome

end

def PlacedOn (orderId : ObjectId) (terms : Terms) (state : State) :
    Action → Prop
  | .create market clock customer input other =>
    other = orderId →
      ∀ drafted ∈ (createOrder market clock customer input orderId
          state.database).toOption,
        drafted.2.order.terms = terms
  | _ => True

def Honouring (terms : Terms) : Call → Prop
  | .transaction _ callback _ document =>
    document.Honours terms callback ∧ (document.isNew = true → document.order.On terms)
  | .save document | .reserve _ document =>
    document.order.terms = terms ∧ (document.isNew = true → document.order.On terms)
  | .audit _ => True

def Database.On (orderId : ObjectId) (terms : Terms) (database : Database) :
    Prop :=
  ∀ row, database.orders.lookup orderId = some row → row.On terms

section

variable {orderId : ObjectId} {terms : Terms} {state after : State} {action : Action}

/-- A new call has read the terms, or has made them. -/
theorem Honouring.begun {call : Call}
    (on : state.database.On orderId terms)
    (honouring : ∀ other ∈ state.calls, other.orderId = orderId → Honouring terms other)
    (placed : PlacedOn orderId terms state action)
    (begun : Begun orderId state action after call)
    (about : call.orderId = orderId) : Honouring terms call := by
  cases begun with
  | booked market clock customer input callback document requested ordered =>
    subst requested
    have same : document.order.terms = terms :=
      placed rfl (callback, document) (by rw [ordered]; rfl)
    have booked := createOrder_books _ ordered
    rcases booked.orders with ⟨_, _, _, _, _, _, _, rfl, subtotal⟩
    refine ⟨.inl same, fun _ => ⟨same, ?_⟩⟩
    rw [← same]
    exact newOrder_addUp subtotal
  | drafted environment clock actor method row callback document _ _ _ found prepares =>
    have drafted : Drafted actor row method callback document := method.drafts _ prepares
    have stored := (on row found).1
    have honours := drafted.terms
    rw [stored] at honours
    refine ⟨honours, ?_⟩
    rw [drafted.inserted]
    exact nofun
  | amended environment clock actor method row document _ found prepares =>
    have amended : Amended row document := method.drafts _ prepares
    refine ⟨amended.terms.trans (on row found).1, ?_⟩
    rw [amended.inserted]
    exact nofun
  | audited => trivial
  | aborted index budget clock operation callback prepared document _ flying =>
    have confined := @Callback.confined clock callback state.database document (some budget)
    have about' : document.order._id = orderId := confined.identified.symm.trans about
    rcases honouring _ (List.mem_of_getElem? flying) about' with ⟨honours, inserts⟩
    have honoured := (@Honoured.rests orderId terms callback).kept.runs
      (@Callback.allows callback clock _)
      ⟨state.database, state.database, document, some budget⟩
      ⟨about', honours, inserts, on⟩
    exact ⟨honoured.honours, honoured.inserts⟩
  | reserved index environment clock claim document promoId _ flying =>
    have honours : document.order.terms = terms ∧
        (document.isNew = true → document.order.On terms) :=
      honouring _ (List.mem_of_getElem? flying) about
    exact honours

theorem Honouring.follows {operation : Option Operation}
    {callback : Callback} {document' : OrderDocument} {database : Database}
    {call : Call}
    (honoured : Honoured orderId terms callback database document')
    (followed : callback.followUp operation document' = some call) :
    Honouring terms call := by
  unfold Callback.followUp at followed
  split at followed
  · cases followed
    refine ⟨?_, honoured.inserts⟩
    rcases honoured.honours with same | ⟨chargeless, clean, other⟩
    · exact .inl same
    · refine .inr ⟨trivial, ?_, other⟩
      simpa using clean
  · cases followed
    exact ⟨honoured.honours.charged id, honoured.inserts⟩
  · cases followed

end

theorem terms_obligations (orderId : ObjectId) (terms : Terms) :
    Obligations orderId (PlacedOn orderId terms) (fun _ => True)
      (fun state => state.database.On orderId terms)
      (fun _ => Honouring terms) where
  beside := by
    intro state after beside on row found
    rw [beside.same.row] at found
    exact on row found
  steady := fun _ _ _ _ _ honouring => honouring
  begun := fun _ _ _ _ _ invariant placed _ begun about =>
    .begun invariant.good invariant.sound placed begun about
  commit := by
    intro state index environment clock operation callback prepared document
      database document' _ invariant _ _ about honouring outcome
    rcases honouring with ⟨honours, inserts⟩
    have honoured : Honoured orderId terms callback state.database
        document :=
      ⟨about, honours, inserts, invariant.good⟩
    have committed := honoured.commits outcome
    refine ⟨⟨committed.row, fun _ _ _ other => other⟩, ?_⟩
    exact fun call followed => .follows committed followed
  save := by
    intro state index environment clock document row saved _ invariant _ _ _ honouring outcome
    refine ⟨?_, fun _ _ _ other => other⟩
    intro stored found
    cases (AList.lookup_insert _).symm.trans found
    exact OrderDocument.save_on (congrArg Terms.lines honouring.1)
      (fun _ => honouring.1) honouring.2 invariant.good outcome

theorem on_of_reaches {castToObjectId : String → Option ObjectId}
    {orderId : ObjectId} {terms : Terms} {state : State}
    (reached : (orderSystem castToObjectId).Reaches (PlacedOn orderId terms) .start state) :
    state.database.On orderId terms := by
  have invariant := (terms_obligations orderId terms).reaches
    (fun _ _ => trivial)
    (by
      intro row found
      simp [State.start] at found)
    reached
  exact invariant.good

/--
The price that the scale gives is the one on the terms the order was placed on, and
that of the estimate when every line costs what was estimated, exactly when the
order was booked without a discount.
-/
theorem bookedPriceIsCollected {castToObjectId : String → Option ObjectId}
    {orderId : ObjectId} {terms : Terms} {state : State} {row : OnlineOrder}
    (reached : (orderSystem castToObjectId).Reaches (PlacedOn orderId terms) .start state)
    (found : state.database.orders.lookup orderId = some row)
    (measured : Measurement) :
    ((finalizePricing measured (.ofRow row)).order.pricing.customerTotalCentavos =
        some (terms.total (measured.serviceTotal row.serviceLines)) ↔
      terms.Undiscounted) ∧
    ((∀ line ∈ (finalizePricing measured (.ofRow row)).order.serviceLines,
        line.actualLineTotalCentavos = some line.estimatedLineTotalCentavos) →
      ((finalizePricing measured (.ofRow row)).order.pricing.customerTotalCentavos =
          some terms.estimatedTotalCentavos ↔
        terms.Undiscounted)) := by
  rcases on_of_reaches reached row found with ⟨stored, adds⟩
  have price := finalizePricing_total measured (.ofRow row)
  have price : (finalizePricing measured
      (.ofRow row)).order.pricing.customerTotalCentavos =
        some (terms.total (measured.serviceTotal row.serviceLines) +
          terms.discountCentavos.getD 0) := by
    rw [price, ← stored]
    rfl
  have forgotten : ∀ total : ℚ,
      some (total + terms.discountCentavos.getD 0) = some total ↔
        terms.Undiscounted := by
    intro total
    rw [Option.some.injEq, add_eq_left, Terms.Undiscounted]
  rw [price]
  refine ⟨forgotten _, ?_⟩
  intro estimated
  have same : measured.serviceTotal row.serviceLines =
      terms.estimatedServiceTotal := by
    rw [← stored]
    exact serviceTotal_of_estimated estimated
  rw [same, adds]
  exact forgotten _

deriving instance DecidableEq for LineTerms, Terms

instance (orderId : ObjectId) (terms : Terms) (state : State)
    (action : Action) : Decidable (PlacedOn orderId terms state action) :=
  match action with
  | .create _ _ _ _ _ => inferInstanceAs (Decidable (_ → _))
  | .request _ _ _ _ _ | .commit _ _ _ | .abort _ _ _ | .crash _
  | .sweep _ | .wallet _ | .editPromos _ => .isTrue trivial

def unproposed (orderId : ObjectId) : Action → Bool
  | .request _ _ _ other (.proposeOrderChange _ _) =>
    decide (other ≠ orderId)
  | _ => true

/-- The terms of four kilos of washing. -/
def Shop.terms (discountCentavos : Option ℚ) : Terms where
  lines :=
    [{ pricingType := .perKilo
       price := 5000
       baseKilos := none
       excessRate := none
       minBillableKg := none
       serviceRefId := "wash"
       productSurchargeCentavos := 0
       estimatedLineTotalCentavos := 20000 }]
  platformFeePercent := some 10
  serviceSubtotalCentavos := some 20000
  pickupFeeCentavos := some 0
  returnFeeCentavos := some 0
  turnaroundFeeCentavos := some 0
  discountCentavos
  estimatedTotalCentavos := 22000 - discountCentavos.getD 0

def Shop.fourKilos : Measurement := { actualWeightKg := some 4 }

/-- Without a code, four kilos cost what they were booked at. -/
theorem bookedPriceIsCollected_shop :
    ∃ state row,
      (orderSystem some).Reaches (PlacedOn "order" (Shop.terms none))
          .start state ∧
        state.database.orders.lookup "order" = some row ∧
        (finalizePricing Shop.fourKilos
            (.ofRow row)).order.pricing.customerTotalCentavos =
          some (Shop.terms none).estimatedTotalCentavos := by
  have performed :
      (((orderSystem some).restrict
          (PlacedOn "order" (Shop.terms none))).perform Shop.accepted
        .start).bind (fun state =>
          (state.database.orders.lookup "order").map fun row =>
            decide (∀ line ∈
                (finalizePricing Shop.fourKilos (.ofRow row)).order.serviceLines,
              line.actualLineTotalCentavos =
                some line.estimatedLineTotalCentavos)) = some true := by
    decide +kernel
  rcases System.reaches_of_bind_restrict performed with ⟨state, reached, seen⟩
  rcases Option.map_eq_some_iff.mp seen with ⟨row, found, estimated⟩
  exact ⟨state, row, reached, found,
    ((bookedPriceIsCollected reached found Shop.fourKilos).2 (of_decide_eq_true estimated)).mpr rfl⟩

/-- With a tenth off, they cost more than they were booked at. -/
theorem bookedPriceNotCollected :
    ¬ ∀ (orderId : ObjectId) (terms : Terms) (state : State)
        (row : OnlineOrder) (measured : Measurement),
        (orderSystem some).Reaches
            (fun state action => PlacedOn orderId terms state action ∧
              unproposed orderId action = true) .start state →
        state.database.orders.lookup orderId = some row →
        (finalizePricing measured (.ofRow row)).order.pricing.customerTotalCentavos =
            some (terms.total (measured.serviceTotal row.serviceLines)) ∧
          ((∀ line ∈ (finalizePricing measured (.ofRow row)).order.serviceLines,
              line.actualLineTotalCentavos = some line.estimatedLineTotalCentavos) →
            (finalizePricing measured
                (.ofRow row)).order.pricing.customerTotalCentavos =
              some terms.estimatedTotalCentavos) := by
  intro always
  have performed : (((orderSystem some).restrict fun state action =>
          PlacedOn "order" (Shop.terms (some 2200)) state action ∧
            unproposed "order" action = true).perform
        (Shop.placed ++ [Shop.proceeds, Shop.proceeds] ++
          Shop.calls Shop.owner .acceptOrder) .start).bind (fun state =>
          (state.database.orders.lookup "order").map fun row =>
            (decide (∀ line ∈
                (finalizePricing Shop.fourKilos (.ofRow row)).order.serviceLines,
              line.actualLineTotalCentavos = some line.estimatedLineTotalCentavos),
              (finalizePricing Shop.fourKilos (.ofRow row)).order.pricing.customerTotalCentavos)) =
        some (true, some 22000) := by
    decide +kernel
  rcases System.reaches_of_bind_restrict performed with ⟨state, ran, seen⟩
  rcases Option.map_eq_some_iff.mp seen with ⟨row, found, facts⟩
  simp only [Prod.mk.injEq] at facts
  rcases facts with ⟨estimated, price⟩
  have booked := (always "order" (Shop.terms (some 2200)) state row
    Shop.fourKilos ran found).2
    (of_decide_eq_true estimated)
  rw [price] at booked
  revert booked
  decide +kernel

end Lalaba.Orders
