import Lalaba.Foundation.Run
import Lalaba.Ratings.Service

/-!
# Concurrent calls about ratings

A call reads and checks a rating, and runs its transaction later; other calls run
in between.  Transactions that conflict are serialized, the aborted ones being run
again over the rating the call holds in memory.
-/

namespace Lalaba.Ratings

open Foundation
open Orders (OnlineOrder)

/-- A call that has made its checks and is about to run its transaction. -/
inductive Call where
  | submit (orderId : ObjectId) (order : OnlineOrder) (customerUid : Uid)
      (input : RatingInput) (now : Instant)
  | update (read : Rating) (input : RatingInput)
  | takedown (read : Rating) (reason : String)
  | restore (read : Rating) (reason : String)

/-- The store and the calls in flight. -/
structure State where
  store : RatingStore
  calls : List Call

namespace State

def start (store : RatingStore) : State where
  store
  calls := []

def begin (call : Call) (state : State) : State := { state with calls := state.calls ++ [call] }

def finish (index : ℕ) (store : RatingStore) (state : State) : State where
  store
  calls := state.calls.eraseIdx index

end State

/-- What can happen next. -/
inductive Action where
  | submitRating (orderId : ObjectId) (order : Option OnlineOrder)
      (customerUid : Uid) (input : RatingInput) (now : Instant)
  | updateRating (orderId : ObjectId) (customerUid : Uid) (input : RatingInput) (now : Instant)
  | moderateTakedown (ratingId : ObjectId) (reason : String)
  | restoreRating (ratingId : ObjectId) (reason : String)
  | proceed (index : ℕ) (aborts : List ℕ) (newId : ObjectId)

def transact (aborts : List ℕ) (newId : ObjectId) (store : RatingStore) :
    Call → RatingStore
  | .submit orderId order customerUid input now =>
    ((submitInTransaction (newRating newId orderId order customerUid input now)
        ).withTransaction aborts store ()).2.1
  | .update read input =>
    ((updateInTransaction input read).withTransaction aborts store (.read read)).2.1
  | .takedown read reason =>
    ((takedownInTransaction reason).withTransaction aborts store (.read read)).2.1
  | .restore read reason =>
    ((restoreInTransaction reason).withTransaction aborts store (.read read)).2.1

/-- One step; `none` when it is refused without a write. -/
def step : Action → State → Option State
  | .submitRating orderId order customerUid input now, state =>
    (assertRatable order customerUid orderId now state.store).toOption.map fun order =>
        state.begin (.submit orderId order customerUid input now)
  | .updateRating orderId customerUid input now, state =>
    (assertEditable orderId customerUid now state.store).toOption.map
      fun read => state.begin (.update read input)
  | .moderateTakedown ratingId reason, state =>
    (findForModeration ratingId true state.store).toOption.join.map
      fun read => state.begin (.takedown read reason)
  | .restoreRating ratingId reason, state =>
    (findForModeration ratingId false state.store).toOption.join.map
      fun read => state.begin (.restore read reason)
  | .proceed index aborts newId, state =>
    if state.store.ratings.any fun row => row._id == newId then
      none
    else
      state.calls[index]?.map fun call =>
        state.finish index (transact aborts newId state.store call)

def ratingSystem : System State Action := { step }

def Call.Checked (store : RatingStore) : Call → Prop
  | .submit _ _ _ _ _ => True
  | .update read _ => read ∈ store.ratings
  | .takedown read _ => read ∈ store.ratings ∧ read.isRemoved = false
  | .restore read _ => read ∈ store.ratings ∧ read.isRemoved = true

theorem assertEditable_mem {orderId : ObjectId} {customerUid : Uid}
    {now : Instant} {store : RatingStore} {read : Rating}
    (found : (assertEditable orderId customerUid now store).toOption =
      some read) : read ∈ store.ratings := by
  rw [assertEditable] at found
  split at found
  · cases found
  · next rating isIt =>
    split at found
    · cases found
    · split at found
      · cases found
      · cases found
        exact List.mem_of_find?_eq_some isIt

theorem findForModeration_undecided {ratingId : ObjectId} {decided : Bool}
    {store : RatingStore} {read : Rating}
    (found : (findForModeration ratingId decided store).toOption.join = some read) :
    read ∈ store.ratings ∧ read.isRemoved = !decided := by
  rw [findForModeration] at found
  split at found
  · cases found
  · next rating isIt =>
    split at found
    · cases found
    · next undecided =>
      cases found
      exact ⟨List.mem_of_find?_eq_some isIt, Bool.eq_not_of_ne undecided⟩

theorem step_cases {action : Action} {state after : State}
    (stepped : ratingSystem.step action state = some after) :
    (∃ call : Call, call.Checked state.store ∧ after = state.begin call) ∨
      ∃ index aborts newId call, action = .proceed index aborts newId ∧
        (∀ row ∈ state.store.ratings, row._id ≠ newId) ∧
        state.calls[index]? = some call ∧
        after = state.finish index (transact aborts newId state.store call) := by
  cases action with
  | submitRating orderId order customerUid input now =>
    obtain ⟨order', _, rfl⟩ := Option.map_eq_some_iff.mp stepped
    exact .inl ⟨.submit orderId order' customerUid input now, trivial, rfl⟩
  | updateRating orderId customerUid input now =>
    obtain ⟨read, found, rfl⟩ := Option.map_eq_some_iff.mp stepped
    exact .inl ⟨.update read input, assertEditable_mem found, rfl⟩
  | moderateTakedown ratingId reason =>
    obtain ⟨read, found, rfl⟩ := Option.map_eq_some_iff.mp stepped
    exact .inl ⟨.takedown read reason, findForModeration_undecided found, rfl⟩
  | restoreRating ratingId reason =>
    obtain ⟨read, found, rfl⟩ := Option.map_eq_some_iff.mp stepped
    exact .inl ⟨.restore read reason, findForModeration_undecided found, rfl⟩
  | proceed index aborts newId =>
    simp only [ratingSystem, step] at stepped
    split at stepped
    · cases stepped
    · next undrawn =>
      obtain ⟨call, waits, rfl⟩ := Option.map_eq_some_iff.mp stepped
      refine .inr ⟨index, aborts, newId, call, rfl, ?_, waits, rfl⟩
      intro row stored same
      exact undrawn (List.any_eq_true.mpr ⟨row, stored, by simp [same]⟩)

end Lalaba.Ratings
