import Lalaba.Orders.Timeline

/-!
# Where a transaction comes from

A transaction in flight was begun at some earlier state of the run: by
`createOrder`, by a method that passed its guards on the row it read there, or as
the second `saveAndTransition` of such a method.  Runs that the database aborts
change its document and nothing else.
-/

namespace Lalaba.Orders

open Foundation
open Foundation.Program

/-- A method was called in a run, and came to a transaction. -/
inductive Requested (castToObjectId : String → Option ObjectId)
    (admissible : State → Action → Prop) (state : State)
    (method : Operation) (callback : Callback)
    (prepared : OrderDocument) : Prop where
  | intro (environment : Environment) (clock : Clock) (actor : User)
      (row : OnlineOrder) (earlier next : State)
      (reached : (orderSystem castToObjectId).Reaches admissible .start earlier)
      (allowed : admissible earlier (.request environment clock actor prepared.order._id method))
      (called : (orderSystem castToObjectId).step
        (.request environment clock actor prepared.order._id method)
        earlier = some next)
      (continues : (orderSystem castToObjectId).Reaches admissible next state)
      (found : earlier.database.orders.lookup prepared.order._id = some row)
      (prepares : method.prepare environment clock actor earlier.database
        row = .ok (.transaction callback prepared))

/-- The call of a run that a transaction comes from. -/
inductive Traced (castToObjectId : String → Option ObjectId)
    (admissible : State → Action → Prop) (state : State)
    (operation : Option Operation) (callback : Callback)
    (prepared : OrderDocument) : Prop where
  | booked (market : Market) (clock : Clock) (customer : User)
      (input : CreateOrderInput) (orderId : ObjectId) (earlier : State)
      (reached : (orderSystem castToObjectId).Reaches admissible .start earlier)
      (allowed : admissible earlier (.create market clock customer input orderId))
      (of : operation = none)
      (ordered : createOrder market clock customer input orderId
        earlier.database = .ok (callback, prepared))
  | requested (method : Operation) (of : operation = some method)
      (requested : Requested castToObjectId admissible state method callback prepared)
  | following (method : Operation) (first : Callback)
      (before : OrderDocument) (target : OrderStatus) (actorUid : Uid)
      (actorRole : String) (of : operation = some method)
      (requested : Requested castToObjectId admissible state method first before)
      (next : first.next = some target)
      (is : callback = .saveThenTransition target actorUid actorRole none none)

section

variable {castToObjectId : String → Option ObjectId}
  {admissible : State → Action → Prop} {state after : State}
  {operation : Option Operation} {method : Operation}
  {callback : Callback} {prepared document : OrderDocument}

theorem Requested.drafts
    (requested : Requested castToObjectId admissible state method callback prepared) :
    ∃ actor row, Drafted actor row method callback prepared := by
  cases requested with
  | intro environment clock actor row earlier next _ _ _ _ _ prepares =>
    exact ⟨actor, row, method.drafts _ prepares⟩

theorem Requested.next
    (requested : Requested castToObjectId admissible state method callback prepared)
    {action : Action} (allowed : admissible state action)
    (stepped : (orderSystem castToObjectId).step action state = some after) :
    Requested castToObjectId admissible after method callback prepared := by
  cases requested with
  | intro environment clock actor row earlier next reached called' called
      continues found prepares =>
    exact .intro environment clock actor row earlier next reached called'
      called (.next continues allowed stepped) found prepares

theorem Traced.next
    (traced : Traced castToObjectId admissible state operation callback prepared)
    {action : Action} (allowed : admissible state action)
    (stepped : (orderSystem castToObjectId).step action state = some after) :
    Traced castToObjectId admissible after operation callback prepared := by
  cases traced with
  | booked market clock customer input orderId earlier reached called of ordered =>
    exact .booked market clock customer input orderId earlier reached called of ordered
  | requested method of requested =>
    exact .requested method of (requested.next allowed stepped)
  | following method first before target actorUid actorRole of requested next is =>
    exact .following method first before target actorUid actorRole of
      (requested.next allowed stepped) next is

theorem Traced.follows
    (traced : Traced castToObjectId admissible state operation callback
      prepared) {target : OrderStatus}
    (next : callback.next = some target) (actorUid : Uid)
    (actorRole : String) (document : OrderDocument) :
    Traced castToObjectId admissible state operation
      (.saveThenTransition target actorUid actorRole none none)
      document := by
  cases traced with
  | booked _ _ _ _ _ _ _ _ _ ordered =>
    rcases (createOrder_books _ ordered).creates with ⟨_, _, _, rfl⟩
    cases next
  | requested method of requested =>
    exact .following method callback prepared target actorUid actorRole of requested next rfl
  | following _ _ _ _ _ _ _ _ _ is =>
    rw [is] at next
    cases next

theorem followUp_transaction {operation' : Option Operation}
    {callback' : Callback} {prepared' document' : OrderDocument}
    (followed : callback.followUp operation document =
      some (.transaction operation' callback' prepared' document')) :
    operation' = operation ∧ prepared' = document' ∧
      ∃ target actorUid actorRole, callback.next = some target ∧
        callback' =
          .saveThenTransition target actorUid actorRole none none := by
  unfold Callback.followUp at followed
  split at followed
  · cases followed
    exact ⟨rfl, rfl, _, _, _, rfl, rfl⟩
  · cases followed
  · cases followed

/-- Every transaction in flight was begun, for the order it is about. -/
theorem traced_of_reaches
    (reached : (orderSystem castToObjectId).Reaches admissible .start state) :
    ∀ operation callback prepared document,
      Call.transaction operation callback prepared document ∈
          state.calls →
        Traced castToObjectId admissible state operation callback
            prepared ∧
          prepared.order._id = document.order._id := by
  induction reached with
  | refl =>
    intro _ _ _ _ member
    simp [State.start] at member
  | @next state after action earlier allowed stepped induction =>
    intro operation callback prepared document member
    have tidy := State.Tidy.of_reaches earlier
    have old : Call.transaction operation callback prepared document ∈
        state.calls →
        Traced castToObjectId admissible after operation callback
            prepared ∧
          prepared.order._id = document.order._id := by
      intro member
      rcases induction _ _ _ _ member with ⟨traced, about⟩
      exact ⟨traced.next allowed stepped, about⟩
    have cases := @step_cases document.order._id _ _ _ tidy _ stepped
    cases cases with
    | aside _ calls =>
      rcases calls _ member rfl with flying | begun
      · exact old flying
      · cases begun with
        | booked market clock customer input _ _ requested ordered =>
          subst requested
          exact ⟨.booked market clock customer input _ state earlier allowed rfl ordered, rfl⟩
        | drafted environment clock actor method row _ _ requested _ _ found prepares =>
          subst requested
          exact ⟨.requested method rfl (.intro environment clock actor
            row state after earlier allowed stepped .refl found prepares), rfl⟩
        | aborted index budget clock _ _ _ document' _ flying =>
          rcases induction _ _ _ _ (List.mem_of_getElem? flying) with ⟨traced, about⟩
          have confined := @Callback.confined clock callback state.database document' (some budget)
          exact ⟨traced.next allowed stepped, about.trans confined.identified.symm⟩
    | committed _ _ _ _ _ _ _ _ _ _ flying _ _ _ calls =>
      rcases calls _ member with flying' | followed
      · exact old flying'
      · rcases followUp_transaction followed with ⟨rfl, rfl, target, actorUid, actorRole, next, rfl⟩
        have traced := (induction _ _ _ _ (List.mem_of_getElem? flying)).1
        exact ⟨(traced.next allowed stepped).follows next actorUid actorRole _, rfl⟩
    | saved _ _ _ _ _ _ _ _ _ _ _ calls =>
      exact old (calls _ member)

end

/-- A document after runs of a callback that the database has aborted. -/
inductive Callback.Retried (callback : Callback)
    (prepared : OrderDocument) : OrderDocument → Prop where
  | first : Retried callback prepared prepared
  | again {document : OrderDocument} (clock : Clock) (budget : ℕ)
      (database : Database)
      (earlier : Retried callback prepared document) :
      Retried callback prepared
        ((callback.program clock).runOnce (some budget) database document).2.memory

theorem Callback.Retried.holds {callback : Callback}
    {prepared document : OrderDocument}
    {property : OrderDocument → Prop}
    (retried : callback.Retried prepared document)
    (keeps : ∀ clock, Keeps (fun session => property session.memory) (callback.program clock))
    (start : property prepared) : property document := by
  induction retried with
  | first => exact start
  | again clock budget database _ induction =>
    exact keeps clock _ induction

theorem Callback.Retried.keeps {callback : Callback}
    {prepared document : OrderDocument} {orderId : ObjectId}
    {property : OrderDocument → Prop}
    (retried : callback.Retried prepared document)
    (kept : Kept orderId callback.touches (fun session => property session.memory))
    (start : property prepared) : property document :=
  retried.holds (fun _ => kept.program) start

/-- A document with the provider and the day it was read with. -/
structure Unmoved (orderId : ObjectId) (provider : ProviderSnapshot)
    (slot : Option ScheduledPickup) (document : OrderDocument) : Prop where
  identified : document.order._id = orderId
  offered : document.order.provider = provider
  scheduled : document.order.fulfillment.scheduledPickup = slot

theorem Unmoved.rests {orderId : ObjectId} {provider : ProviderSnapshot}
    {slot : Option ScheduledPickup} {allowed : Touch → Prop}
    (booked : ∀ slot, ¬ allowed (.schedule slot)) :
    Rests orderId allowed (fun session => Unmoved orderId provider slot session.memory) where
  identified := fun _ unmoved => unmoved.identified
  beside := fun _ _ _ _ _ unmoved => unmoved
  save := by
    intro session row saved unmoved ran
    rw [OrderDocument.save_saved ran]
    exact ⟨unmoved.identified, unmoved.offered, unmoved.scheduled⟩
  update := fun _ _ _ _ unmoved _ => unmoved
  touch := by
    intro session touch may unmoved
    cases touch with
    | schedule slot => exact (booked slot may).elim
    | _ => exact ⟨unmoved.identified, unmoved.offered, unmoved.scheduled⟩

end Lalaba.Orders
