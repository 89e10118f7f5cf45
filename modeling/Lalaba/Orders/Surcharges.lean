import Lalaba.Orders.Waivers

/-!
# What a quality hold adds to a price

The scale prices an order, and each hold that its customer approves adds a surcharge
and the fee on it to three of the amounts.  An observer of an order writes down what
its committed calls have priced, raised and resolved.  What a method makes of the
price and of the hold depends on its bearing alone, and no run of a callback changes
either of them in memory.
-/

namespace Lalaba.Orders

open Foundation
open Foundation.Program

/-! ## Amounts -/

/-- The amounts that surcharges are added to, and the percentage of the fee. -/
structure Amounts where
  feePercent : ℚ≥0
  serviceTotalCentavos : ℚ
  feeSurchargeCentavos : ℤ
  customerTotalCentavos : ℚ
deriving DecidableEq

def QualityHold.surchargeCentavos (hold : QualityHold) : ℕ := hold.additionalChargeCentavos.getD 0

def QualityHold.surchargeFeeCentavos (feePercent : ℚ≥0)
    (hold : QualityHold) : ℤ :=
  calculatePlatformFee hold.surchargeCentavos feePercent

namespace Amounts

def charge (amounts : Amounts) (hold : QualityHold) : Amounts where
  feePercent := amounts.feePercent
  serviceTotalCentavos := amounts.serviceTotalCentavos + hold.surchargeCentavos
  feeSurchargeCentavos :=
    amounts.feeSurchargeCentavos + hold.surchargeFeeCentavos amounts.feePercent
  customerTotalCentavos :=
    amounts.customerTotalCentavos + hold.surchargeCentavos +
      hold.surchargeFeeCentavos amounts.feePercent

theorem foldl_charge (amounts : Amounts) (holds : List QualityHold) :
    holds.foldl charge amounts =
      { feePercent := amounts.feePercent
        serviceTotalCentavos := amounts.serviceTotalCentavos +
          ((holds.map QualityHold.surchargeCentavos).sum : ℕ)
        feeSurchargeCentavos := amounts.feeSurchargeCentavos +
          (holds.map (QualityHold.surchargeFeeCentavos amounts.feePercent)).sum
        customerTotalCentavos := amounts.customerTotalCentavos +
          ((holds.map QualityHold.surchargeCentavos).sum : ℕ) +
          ((holds.map (QualityHold.surchargeFeeCentavos amounts.feePercent)).sum : ℤ) } := by
  induction holds generalizing amounts with
  | nil => simp
  | cons hold holds induction =>
    rw [List.foldl_cons, induction]
    simp only [charge, List.map_cons, List.sum_cons, Nat.cast_add,
      Int.cast_add, Amounts.mk.injEq, true_and]
    refine ⟨?_, ?_, ?_⟩
    · ring
    · ring
    · ring

theorem charge_of_free {amounts : Amounts} {hold : QualityHold}
    (free : hold.surchargeCentavos = 0) : amounts.charge hold = amounts := by
  have fee : hold.surchargeFeeCentavos amounts.feePercent = 0 := by
    rw [QualityHold.surchargeFeeCentavos, free, calculatePlatformFee, Nat.cast_zero, zero_mul]
    exact Int.floor_eq_iff.mpr (by norm_num)
  simp [charge, free, fee]

end Amounts

def OrderPricing.amounts (pricing : OrderPricing) : Amounts where
  feePercent := pricing.platformFeePercent.getD 0
  serviceTotalCentavos := pricing.actualServiceTotalCentavos.getD 0
  feeSurchargeCentavos := pricing.platformFeeSurchargeCentavos.getD 0
  customerTotalCentavos := pricing.customerTotalCentavos.getD 0

theorem roundCentavos_natCast (charge : ℕ) : roundCentavos (charge : ℚ) = charge := by
  rw [roundCentavos, Int.floor_eq_iff]
  push_cast
  constructor
  · linarith
  · linarith

theorem resolveHold_amounts (clock : Clock) {hold : QualityHold}
    (approve : Bool) {order : OnlineOrder}
    (line : hold.serviceLineIndex < order.serviceLines.length) :
    (order.resolveHold clock hold approve).pricing.amounts =
      if approve then order.pricing.amounts.charge hold
      else order.pricing.amounts := by
  have found : order.serviceLines[hold.serviceLineIndex]? =
      some order.serviceLines[hold.serviceLineIndex] :=
    List.getElem?_eq_getElem line
  rw [OnlineOrder.resolveHold, found]
  rcases charged : hold.additionalChargeCentavos with _ | charge
  · have free : hold.surchargeCentavos = 0 := by
      rw [QualityHold.surchargeCentavos, charged, Option.getD_none]
    rw [Amounts.charge_of_free free, ite_self]
  · have surcharge : hold.surchargeCentavos = charge := by
      rw [QualityHold.surchargeCentavos, charged, Option.getD_some]
    cases approve with
    | false => rfl
    | true =>
      by_cases free : charge = 0
      · rw [Amounts.charge_of_free (surcharge.trans free)]
        simp [free]
      · have priced : (order.pricing.surcharge charge).amounts =
            order.pricing.amounts.charge hold := by
          simp only [OrderPricing.surcharge, OrderPricing.amounts,
            Amounts.charge, QualityHold.surchargeFeeCentavos, surcharge,
            roundCentavos_natCast, Option.getD_some, Int.cast_natCast]
        simpa [free, OnlineOrder.applySurcharge] using priced

/-! ## Occurrences -/

/-- What a committed call does to the price of an order, or to its hold. -/
inductive Occurrence where
  | priced (amounts : Amounts)
  | raised (hold : QualityHold)
  | resolved (hold : QualityHold)

def Occurrence.isPriced : Occurrence → Bool
  | .priced _ => true
  | _ => false

def Occurrence.approval : Occurrence → Option QualityHold
  | .resolved hold =>
    if hold.customerResponse = .approved then some hold else none
  | _ => none

def approvedIn (history : List Occurrence) : List QualityHold :=
  history.filterMap Occurrence.approval

def Occurrence.waits (waiting : Option QualityHold) :
    Occurrence → Option QualityHold
  | .priced _ => waiting
  | .raised hold => some hold
  | .resolved _ => none

def waitingIn (history : List Occurrence) : Option QualityHold :=
  history.foldl Occurrence.waits none

def Occurrence.bills (amounts : Option Amounts) (occurrence : Occurrence) :
    Option Amounts :=
  match occurrence with
  | .priced amounts => some amounts
  | _ => amounts.map (occurrence.approval.toList.foldl Amounts.charge)

def amountsIn (history : List Occurrence) : Option Amounts := history.foldl Occurrence.bills none

def Occurrence.Follows (history : List Occurrence) : Occurrence → Prop
  | .priced _ => approvedIn history = []
  | .raised _ => True
  | .resolved hold => ∃ raised clock response,
      waitingIn history = some raised ∧ hold = raised.answered clock response

def Orderly (history : List Occurrence) : Prop :=
  ∀ before occurrence since, history = before ++ occurrence :: since → occurrence.Follows before

theorem orderly_nil : Orderly [] := by
  intro before occurrence since parted
  simp at parted

theorem Orderly.concat {history : List Occurrence} (orderly : Orderly history)
    {occurrence : Occurrence} (follows : occurrence.Follows history) :
    Orderly (history ++ [occurrence]) := by
  intro before other since parted
  rcases List.eq_nil_or_concat' since with rfl | ⟨since, last, rfl⟩
  · rcases List.append_inj' parted rfl with ⟨rfl, same⟩
    cases same
    exact follows
  · rw [← List.cons_append, ← List.append_assoc] at parted
    exact orderly before other since (List.append_inj' parted rfl).1

@[simp]
theorem approvedIn_append (history since : List Occurrence) :
    approvedIn (history ++ since) = approvedIn history ++ approvedIn since :=
  List.filterMap_append

@[simp]
theorem waitingIn_concat (history : List Occurrence)
    (occurrence : Occurrence) :
    waitingIn (history ++ [occurrence]) = occurrence.waits (waitingIn history) := by
  simp [waitingIn]

@[simp]
theorem amountsIn_concat (history : List Occurrence)
    (occurrence : Occurrence) :
    amountsIn (history ++ [occurrence]) = occurrence.bills (amountsIn history) := by
  simp [amountsIn]

theorem amountsIn_since {before since : List Occurrence} {amounts : Amounts}
    (last : ∀ other, .priced other ∉ since) :
    amountsIn (before ++ .priced amounts :: since) =
      some ((approvedIn since).foldl Amounts.charge amounts) := by
  have later : ∀ amounts : Amounts,
      since.foldl Occurrence.bills (some amounts) =
        some ((approvedIn since).foldl Amounts.charge amounts) := by
    induction since with
    | nil => exact fun _ => rfl
    | cons occurrence since induction =>
      intro amounts
      have rest := induction fun other member => last other (.tail _ member)
      rw [List.foldl_cons, approvedIn, List.filterMap_cons]
      cases occurrence with
      | priced other => exact (last other (.head _)).elim
      | raised hold => exact rest amounts
      | resolved hold =>
        simp only [Occurrence.bills, Occurrence.approval]
        split
        · exact rest _
        · exact rest amounts
  rw [amountsIn, List.foldl_append, List.foldl_cons]
  exact later amounts

theorem raised_of_waitingIn {history : List Occurrence} {hold : QualityHold}
    (waits : waitingIn history = some hold) :
    ∃ before since, history = before ++ .raised hold :: since ∧
      ∀ other, .resolved other ∉ since := by
  induction history using List.reverseRecOn with
  | nil => cases waits
  | append_singleton history occurrence induction =>
    rw [waitingIn_concat] at waits
    cases occurrence with
    | priced amounts =>
      rcases induction waits with ⟨before, since, rfl, unresolved⟩
      refine ⟨before, since ++ [.priced amounts], by simp, ?_⟩
      intro other member
      simp only [List.mem_append, List.mem_singleton, reduceCtorEq, or_false] at member
      exact unresolved other member
    | raised raised =>
      cases waits
      exact ⟨history, [], rfl, fun _ => List.not_mem_nil⟩
    | resolved resolved => cases waits

/-! ## The observer -/

/-- What an operation has to do with the price and the hold of its order. -/
inductive Bearing where
  | prices
  | raises
  | resolves (approve : Bool)
  | plain
deriving DecidableEq

def Operation.bearing : Operation → Bearing
  | .recordPickupWeight _ | .receiveAtCounter _ => .prices
  | .raiseQualityHold _ => .raises
  | .respondToQualityHold approve => .resolves approve
  | .autoResolveExpiredQualityHold => .resolves false
  | _ => .plain

def Bearing.occurrences (document : OrderDocument) :
    Bearing → List Occurrence
  | .prices => [.priced document.order.pricing.amounts]
  | .raises => (document.order.activeQualityHold.map .raised).toList
  | .resolves _ => (document.order.activeQualityHold.map .resolved).toList
  | .plain => []

def occurrencesOf (document : OrderDocument) :
    Option Operation → List Occurrence
  | none => []
  | some operation => operation.bearing.occurrences document

/-- The observer of an order writes down what its committed calls have done. -/
def observe (orderId : ObjectId) (state : State) (action : Action)
    (_ : State) (history : List Occurrence) : List Occurrence :=
  match action with
  | .commit index _ clock =>
    match state.calls[index]? with
    | some (.transaction operation callback _ document) =>
      if document.order._id = orderId then
        match (callback.program clock).commit state.database document with
        | (.ok _, _) => history ++ occurrencesOf document operation
        | (.error _, _) => history
      else
        history
    | _ => history
  | _ => history

def OrderDocument.unspent (document prepared : OrderDocument) : Bool :=
  (decide (.pricing ∈ prepared.modified → .pricing ∈ document.modified)) &&
    decide (.activeQualityHold ∈ prepared.modified → .activeQualityHold ∈ document.modified)

/--
A step that loses no change: what a method has made of the price and of the hold is
still to be saved when its transaction commits, unless the table refuses it, and a
save outside any transaction writes no price over other amounts.
-/
def unspent (orderId : ObjectId) (state : State) : Action → Bool
  | .commit index _ _ =>
    match state.calls[index]? with
    | some (.transaction _ callback prepared document) =>
      decide (document.order._id ≠ orderId) ||
        callback.refused document || document.unspent prepared
    | some (.save document) =>
      decide (document.order._id ≠ orderId) ||
        decide (.pricing ∉ document.modified) ||
        (state.database.orders.lookup orderId).all fun row =>
          decide (row.pricing.amounts = document.order.pricing.amounts)
    | _ => true
  | _ => true

def LosesNothing (orderId : ObjectId) (state : State) (action : Action) :
    Prop :=
  Timely orderId state action ∧ unspent orderId state action = true

instance (orderId : ObjectId) (state : State) (action : Action) :
    Decidable (LosesNothing orderId state action) :=
  inferInstanceAs (Decidable (_ ∧ _))

/-! ## What the calls make of a price -/

/-- What a row makes of a history. -/
structure OnlineOrder.Reflects (history : List Occurrence) (row : OnlineOrder) : Prop where
  amounts : ∀ amounts, amountsIn history = some amounts → row.pricing.amounts = amounts
  hold : ∀ hold, row.activeQualityHold = some hold →
    hold.resolvedAt = none →
      waitingIn history = some hold ∧ hold.serviceLineIndex < row.serviceLines.length
  taken : approvedIn history ≠ [] → row.status.taken

/-- What a document has made of the price and the hold of a row. -/
def Bearing.Makes (history : List Occurrence) (row : OnlineOrder)
    (document : OrderDocument) : Bearing → Prop
  | .prices => True
  | .raises =>
    document.order.pricing.amounts = row.pricing.amounts ∧
      ∃ hold, document.order.activeQualityHold = some hold ∧
        hold.serviceLineIndex < row.serviceLines.length
  | .resolves approve =>
    ∃ hold clock, waitingIn history = some hold ∧
      document.order.activeQualityHold = some (hold.answered clock (.of approve)) ∧
      document.order.pricing.amounts =
        if approve then row.pricing.amounts.charge hold
        else row.pricing.amounts
  | .plain => document.order.pricing.amounts = row.pricing.amounts

def Bearing.Fits (callback : Callback) : Bearing → Prop
  | .prices => callback.weighs
  | .raises => callback.chargeless ∧ callback.next = none
  | .resolves _ =>
    callback.chargeless ∧ callback.next = none ∧ callback.aim = .laundryInProgress
  | .plain => ∀ customerUid book promo,
      callback ≠ .create customerUid book promo

def Bearing.marks : Bearing → Finset Path
  | .prices => {.pricing}
  | .raises | .resolves false => {.activeQualityHold}
  | .resolves true => {.pricing, .activeQualityHold}
  | .plain => ∅

theorem Bearing.pricing_or_hold (bearing : Bearing) {path : Path}
    (member : path ∈ bearing.marks) :
    path = .pricing ∨ path = .activeQualityHold := by
  revert path
  cases bearing with
  | resolves approve => cases approve <;> decide
  | _ => decide

section

variable {history : List Occurrence} {actor : User}
  {environment : Environment} {clock : Clock} {database : Database}
  {row : OnlineOrder} {operation : Operation} {callback : Callback}
  {document : OrderDocument}

theorem answerableHold_ok {hold : QualityHold}
    (answerable : answerableHold clock row = .ok hold) :
    row.activeQualityHold = some hold ∧ hold.resolvedAt = none := by
  rw [answerableHold] at answerable
  split at answerable
  · cases answerable
  · rename_i found
    split at answerable
    · cases answerable
    · rename_i unresolved
      split at answerable
      · cases answerable
      · cases answerable
        exact ⟨found, by simpa using unresolved⟩

theorem assertHoldable_ok {input : RaiseQualityHoldInput}
    (holdable : assertHoldable input row = .ok ()) :
    input.serviceLineIndex < row.serviceLines.length := by
  rw [assertHoldable] at holdable
  split at holdable
  · cases holdable
  · rename_i line
    exact not_le.mp line

theorem Edited.makes (edited : Edited clock row operation document)
    (reflects : row.Reflects history) :
    operation.bearing.Makes history row document := by
  have edits := edited.edits
  cases operation with
  | recordPickupWeight | receiveAtCounter => trivial
  | raiseQualityHold input =>
    rcases edits with ⟨hold, priced, holdable⟩
    exact ⟨congrArg _ priced, _, hold, assertHoldable_ok holdable⟩
  | respondToQualityHold approve =>
    rcases edits with ⟨hold, answerable, answered, priced⟩
    rcases answerableHold_ok answerable with ⟨found, unresolved⟩
    rcases reflects.hold hold found unresolved with ⟨waits, line⟩
    refine ⟨hold, clock, waits, answered, ?_⟩
    rw [priced]
    exact resolveHold_amounts clock approve line
  | autoResolveExpiredQualityHold =>
    rcases edits with ⟨hold, found, _, unresolved, answered, priced⟩
    exact ⟨hold, clock, (reflects.hold hold found unresolved).1, answered, congrArg _ priced⟩
  | proposeOrderChange =>
    rcases edits with ⟨_, _, priced⟩
    show document.order.pricing.amounts = _
    rw [priced]
    rfl
  | _ => exact congrArg _ edits.2

theorem Edited.marked (edited : Edited clock row operation document) :
    operation.bearing.marks ⊆ document.modified := by
  have changes : operation.bearing.marks ⊆ operation.marks := by
    cases operation with
    | respondToQualityHold approve => cases approve <;> decide
    | _ => simp [Operation.bearing, Bearing.marks, Operation.marks]
  intro path member
  apply edited.writes path (changes member)
  rcases operation.bearing.pricing_or_hold member with rfl | rfl
  · rfl
  · rfl

theorem Edited.unmarked (edited : Edited clock row operation document)
    (aside : .activeQualityHold ∉ operation.bearing.marks) :
    .activeQualityHold ∉ document.modified := by
  intro marked
  rcases Operation.edits_hold (edited.marks marked) with ⟨_, rfl⟩ | ⟨approve, rfl⟩ | rfl
  · simp [Operation.bearing, Bearing.marks] at aside
  · cases approve <;> simp [Operation.bearing, Bearing.marks] at aside
  · simp [Operation.bearing, Bearing.marks] at aside

theorem Operation.fits
    (prepares : operation.prepare environment clock actor database row =
      .ok (.transaction callback document)) :
    operation.bearing.Fits callback := by
  have drafted : Drafted actor row operation callback document := operation.drafts _ prepares
  have saves := (operation.edited _ prepares).2.2
  have last : callback.aim.turns → callback.next = none := by
    intro turns
    rcases next : callback.next with _ | target
    · rfl
    · exact ((turns_of_followUps (drafted.follows target next)).1 turns).elim
  have aims := drafted.aims
  cases operation with
  | recordPickupWeight | receiveAtCounter =>
    rcases weighed_of_prepare rfl _ prepares with ⟨_, _, same, weighed⟩
    cases same
    exact weighed.weighs
  | raiseQualityHold =>
    have aim := (Option.some.inj aims).symm
    exact ⟨saves rfl, last (.inl aim)⟩
  | respondToQualityHold | autoResolveExpiredQualityHold =>
    have aim := (Option.some.inj aims).symm
    exact ⟨saves rfl, last (.inr aim), aim⟩
  | _ =>
    rintro _ _ _ rfl
    exact drafted.fits

end

/-! ## What a run does to the amounts -/

def OnlineOrder.Costs (amounts : Amounts) (lines : ℕ)
    (order : OnlineOrder) : Prop :=
  order.pricing.amounts = amounts ∧ order.serviceLines.length = lines

theorem OrderDocument.costs_writeTo {amounts : Amounts} {lines : ℕ}
    {document : OrderDocument} {row : OnlineOrder}
    (memory : document.order.Costs amounts lines)
    (stored : row.Costs amounts lines) :
    (document.writeTo row).Costs amounts lines := by
  constructor
  · by_cases marked : .pricing ∈ document.modified
    · rw [show (document.writeTo row).pricing = document.order.pricing from if_pos marked]
      exact memory.1
    · rw [show (document.writeTo row).pricing = row.pricing from if_neg marked]
      exact stored.1
  · by_cases marked : .serviceLines ∈ document.modified
    · rw [show (document.writeTo row).serviceLines = document.order.serviceLines from if_pos marked]
      exact memory.2
    · rw [show (document.writeTo row).serviceLines = row.serviceLines from if_neg marked]
      exact stored.2

/-- Document and row have the same amounts, and as many lines. -/
structure Reckoned (orderId : ObjectId) (amounts : Amounts) (lines : ℕ)
    (orders : Collection OnlineOrder) (document : OrderDocument) :
    Prop where
  identified : document.order._id = orderId
  memory : document.order.Costs amounts lines
  row : ∀ row, orders.lookup orderId = some row → row.Costs amounts lines

/-- What a run leaves of what a method has made of its document. -/
structure Carried (orderId : ObjectId) (document memory : OrderDocument) : Prop where
  identified : memory.order._id = orderId
  amounts : memory.order.pricing.amounts = document.order.pricing.amounts
  lines : memory.order.serviceLines = document.order.serviceLines
  hold : memory.order.activeQualityHold = document.order.activeQualityHold
  marked : ∀ path : Path, path.untouched = true → path ∈ memory.modified → path ∈ document.modified

theorem Touch.amounts (touch : Touch) (document : OrderDocument) :
    (touch.apply document).order.pricing.amounts =
      document.order.pricing.amounts := by
  cases touch <;> rfl

section

variable {orderId : ObjectId} {clock : Clock} {callback : Callback}
  {document document' : OrderDocument} {database after : Database}
  {amounts : Amounts} {lines : ℕ}

theorem Reckoned.rests : Rests orderId callback.touches (fun session =>
      Reckoned orderId amounts lines session.store.orders session.memory) where
  identified := fun _ reckoned => reckoned.identified
  beside := fun _ _ _ _ same reckoned => same ▸ reckoned
  save := by
    intro session row saved reckoned ran
    rw [OrderDocument.save_saved ran]
    refine ⟨reckoned.identified, reckoned.memory, ?_⟩
    intro stored found
    cases (AList.lookup_insert _).symm.trans found
    rcases OrderDocument.save_cases ran with ⟨_, _, rfl⟩ | ⟨_, old, found', rfl⟩
    · exact reckoned.memory
    · exact OrderDocument.costs_writeTo reckoned.memory (reckoned.row old found')
  update := by
    intro session expected patch store reckoned ran
    rcases updateOrder_ok.mp ran with ⟨row, found, _, rfl⟩
    refine ⟨reckoned.identified, reckoned.memory, ?_⟩
    intro stored found'
    cases (AList.lookup_insert _).symm.trans found'
    exact reckoned.row row found
  touch := by
    intro session touch _ reckoned
    have spares := touch.spares session.memory
    refine ⟨spares.identified.trans reckoned.identified, ⟨?_, ?_⟩, reckoned.row⟩
    · exact (touch.amounts session.memory).trans reckoned.memory.1
    · exact (congrArg List.length spares.lines).trans reckoned.memory.2

theorem Reckoned.committed
    (reckoned : Reckoned orderId amounts lines database.orders document)
    (outcome : (callback.program clock).commit database document = (.ok (), after, document')) :
    Reckoned orderId amounts lines after.orders document' := by
  have keeps : Keeps (fun session : Session Database OrderDocument =>
      Reckoned orderId amounts lines session.store.orders session.memory)
      (callback.program clock) :=
    Reckoned.rests.kept.program
  exact @Keeps.committed _ _ _ _ (fun (database : Database) memory =>
      Reckoned orderId amounts lines database.orders memory)
    _ _ _ _ _ _ keeps reckoned outcome

theorem Reckoned.written (ahead : callback.savesAhead)
    (identified : document.order._id = orderId)
    (inserted : document.isNew = false)
    (marked : .pricing ∈ document.modified)
    (same : ∀ row, database.orders.lookup orderId = some row →
      row.serviceLines.length = document.order.serviceLines.length)
    (outcome : (callback.program clock).commit database document = (.ok (), after, document')) :
    Reckoned orderId document.order.pricing.amounts
      document.order.serviceLines.length after.orders document' := by
  apply @Kept.committedAhead _ _ _ (fun (database : Database) memory =>
      Reckoned orderId document.order.pricing.amounts
        document.order.serviceLines.length database.orders memory)
    _ _ _ _ ahead Reckoned.rests.kept _ outcome
  intro row saved ran
  rw [OrderDocument.save_saved ran]
  rcases OrderDocument.save_ok inserted ran with ⟨old, found, rfl, _⟩
  refine ⟨identified, ⟨rfl, rfl⟩, ?_⟩
  intro stored found'
  rw [identified] at found found'
  cases (AList.lookup_insert _).symm.trans found'
  constructor
  · exact congrArg OrderPricing.amounts (if_pos marked)
  · by_cases lined : .serviceLines ∈ document.modified
    · exact congrArg List.length (if_pos lined)
    · exact (congrArg List.length (if_neg lined)).trans (same old found)

theorem Carried.rests : Rests orderId callback.touches (fun session =>
      Carried orderId document session.memory) where
  identified := fun _ carried => carried.identified
  beside := fun _ _ _ _ _ carried => carried
  save := by
    intro session row saved carried ran
    rw [OrderDocument.save_saved ran]
    exact ⟨carried.identified, carried.amounts, carried.lines, carried.hold,
      fun _ _ => nofun⟩
  update := fun _ _ _ _ carried _ => carried
  touch := by
    intro session touch _ carried
    have spares := touch.spares session.memory
    exact ⟨spares.identified.trans carried.identified,
      (touch.amounts session.memory).trans carried.amounts,
      spares.lines.trans carried.lines, spares.hold.trans carried.hold,
      fun path untouched again =>
        carried.marked path untouched (spares.marked path untouched again)⟩

theorem Carried.keeps : Keeps (fun session : Session Database OrderDocument =>
        Carried document.order._id document session.memory)
      (callback.program clock) :=
  Carried.rests.kept.program

theorem Carried.refl :
    Carried document.order._id document document :=
  ⟨rfl, rfl, rfl, rfl, fun _ _ member => member⟩

theorem Carried.run {budget : Option ℕ} :
    Carried document.order._id document
      ((callback.program clock).runOnce budget database document).2.memory :=
  Carried.keeps ⟨database, database, document, budget⟩ Carried.refl

theorem Carried.committed
    (outcome : (callback.program clock).commit database document = (.ok (), after, document')) :
    Carried document.order._id document document' := by
  rcases commit_ok.mp outcome with ⟨finish, ran, _, rfl⟩
  have carried := @Carried.run clock callback document database none
  rw [Program.runOnce, ran] at carried
  exact carried

end

end Lalaba.Orders
