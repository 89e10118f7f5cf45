import Lalaba.Auth.Guard
import Lalaba.Users.Activation

/-!
# Revocation and the cache of accounts

A revoking call writes the account and then drops its cache entry.  A reader that has
loaded the account before the write may cache it after the entry was dropped, and from
then on every request is served the account as it was.  As long as no reader writes
back what a revoking call that has returned has changed, an account that has been
revoked is served revoked.
-/

namespace Lalaba.Auth.Revocation

open Foundation
open Foundation.Configuration
open Users

/-- An account as it is stored. -/
structure Account extends Activation.Account where
  sessionsValidAfter : Option Instant
deriving DecidableEq

/-- An account with its role populated. -/
structure Document where
  account : Account
  role : Option Role
deriving DecidableEq

/-- The database, and the entries of the cache. -/
structure Store where
  users : Collection Account
  roles : Collection Role
  cache : Collection Document

namespace Store

/-- The accounts as `deactivateUser` looks at them. -/
def activation (store : Store) : Activation.Store where
  users :=
    ⟨store.users.entries.map (Sigma.map id fun _ => Account.toAccount),
      List.NodupKeys.map₂ _ _ store.users.nodupKeys⟩
  roles := store.roles

/-- `findById(uid).populate('role')`. -/
def document (uid : Uid) (store : Store) : Option Document :=
  (store.users.lookup uid).map fun account =>
    { account, role := store.activation.populate account.toAccount }

/-- `findByIdAndUpdate`. -/
def update (uid : Uid) (change : Account → Account) (store : Store) :
    Store :=
  match store.users.lookup uid with
  | none => store
  | some account =>
    { store with users := store.users.insert uid (change account) }

/-- `cache.set`. -/
def keep (uid : Uid) (user : Document) (store : Store) : Store :=
  { store with cache := store.cache.insert (userCacheKey uid) user }

/-- `cache.del`. -/
def invalidate (uid : Uid) (store : Store) : Store :=
  { store with cache := store.cache.erase (userCacheKey uid) }

end Store

/-- A call, at the point where it waits. -/
inductive Call where
  /-- `findOneByIdWithRoleCached`, about to look in the cache. -/
  | look (uid : Uid)
  | load (uid : Uid)
  | keep (uid : Uid) (user : Document)
  /-- `revokeSessions`, about to write the account. -/
  | expire (uid : Uid)
  | signOut (uid : Uid) (updated : Option Account)
  /-- `deactivateUser` of an administrator, about to count the active ones. -/
  | count (uid : Uid) (role : Option ObjectId)
  | deactivate (uid : Uid)
  | invalidate (uid : Uid) (updated : Option Account)

inductive Request where
  | findOneByIdWithRoleCached (uid : Uid)
  | revokeSessions (uid : Uid)
  | deactivateUser (uid : Uid) (actorUid : Option Uid)

/-- What a call does first. -/
def enter : Request → Store → Option Call
  | .findOneByIdWithRoleCached uid, _ => some (.look uid)
  | .revokeSessions uid, store =>
    match store.users.lookup uid with
    | none => none
    | some _ => some (.expire uid)
  | .deactivateUser uid actorUid, store =>
    match Activation.deactivatable uid actorUid store.activation with
    | .error _ => none
    | .ok account =>
      some
        (if store.activation.isAdmin account then
          .count uid account.role
        else
          .deactivate uid)

/-- What a call does next, at this time. -/
def resume (now : Instant) : Call → Store → Option (Store × Option Call)
  | .look uid, store =>
    match store.cache.lookup (userCacheKey uid) with
    | some _ => some (store, none)
    | none => some (store, some (.load uid))
  | .load uid, store =>
    match store.document uid with
    | none => some (store, none)
    | some user => some (store, some (.keep uid user))
  | .keep uid user, store => some (store.keep uid user, none)
  | .expire uid, store =>
    let after := store.update uid fun account =>
      { account with sessionsValidAfter := some now }
    some (after, some (.signOut uid (after.users.lookup uid)))
  | .signOut uid updated, store =>
    some (store, some (.invalidate uid updated))
  | .count uid role, store =>
    match Activation.assertNotLastAdmin (store.activation.activeWith role) with
    | .error _ => some (store, none)
    | .ok () => some (store, some (.deactivate uid))
  | .deactivate uid, store =>
    let after := store.update uid fun account =>
      { account with isActive := false }
    some (after, some (.invalidate uid (after.users.lookup uid)))
  | .invalidate uid _, store => some (store.invalidate uid, none)

def sessions : Service Store Call Request Instant where
  enter := enter
  resume := resume

abbrev Calls : Type := Configuration Store Call

/-! ## What a reader is to be served -/

/-- A reader that began after a revoking call of its account had returned. -/
structure Asked where
  place : ℕ
  uid : Uid
  revoked : Account

/-- What such a reader was served. -/
structure Answer where
  revoked : Account
  user : Option Document

/--
The accounts that have not changed since a revoking call returned them, the readers
that began since, and what such readers were served before any later change.
-/
structure Seen where
  revoked : Collection Account := ∅
  asked : List Asked := []
  answers : List Answer := []

namespace Seen

def changed (uid : Uid) (seen : Seen) : Seen :=
  { seen with
    revoked := seen.revoked.erase uid
    asked := seen.asked.filter fun asked => asked.uid != uid }

def returned (uid : Uid) (updated : Account) (seen : Seen) : Seen :=
  { seen with revoked := seen.revoked.insert uid updated }

def asks (place : ℕ) (uid : Uid) (seen : Seen) : Seen :=
  match seen.revoked.lookup uid with
  | none => seen
  | some revoked =>
    { seen with asked := { place, uid, revoked } :: seen.asked }

def served (place : ℕ) (user : Option Document) (seen : Seen) : Seen :=
  { seen with
    answers :=
      ((seen.asked.filter fun asked => asked.place == place).map
        fun asked => { revoked := asked.revoked, user }) ++ seen.answers }

/-- A call runs on. -/
def ran (place : ℕ) (store : Store) (seen : Seen) : Call → Seen
  | .look uid =>
    match store.cache.lookup (userCacheKey uid) with
    | some user => seen.served place (some user)
    | none => seen
  | .load uid =>
    match store.document uid with
    | none => seen.served place none
    | some _ => seen
  | .keep _ user => seen.served place (some user)
  | .expire uid => seen.changed uid
  | .deactivate uid => seen.changed uid
  | .invalidate uid (some updated) =>
    if store.users.lookup uid = some updated then
      seen.returned uid updated
    else
      seen
  | _ => seen

end Seen

def see (configuration : Calls) (move : Move Request Instant) (_ : Calls)
    (seen : Seen) : Seen :=
  match move with
  | .enter (.findOneByIdWithRoleCached uid) =>
    seen.asks configuration.calls.length uid
  | .enter _ => seen
  | .resume index _ =>
    match configuration.calls[index]? with
    | some (some call) => seen.ran index configuration.store call
    | _ => seen

/--
A reader does not cache an account that a revoking call which has returned has changed
since the reader loaded it.
-/
def upToDate (both : Calls × Seen) : Move Request Instant → Bool
  | .enter _ => true
  | .resume index _ =>
    match both.1.calls[index]? with
    | some (some (.keep uid user)) =>
      (both.2.revoked.lookup uid).all fun revoked =>
        revoked == user.account
    | _ => true

/-! ## Revoked accounts in the cache -/

/-- The account is stored like this, and what is cached of it is not older. -/
structure Store.Shows (store : Store) (uid : Uid) (revoked : Account) : Prop where
  stored : store.users.lookup uid = some revoked
  cached : ∀ user, store.cache.lookup (userCacheKey uid) = some user → user.account = revoked

def Call.Serves (uid : Uid) (revoked : Account) : Call → Prop
  | .look other => other = uid
  | .load other => other = uid
  | .keep other user => other = uid ∧ user.account = revoked
  | _ => False

/-- What the observer expects is what the database and the cache have. -/
structure Consistent (both : Calls × Seen) : Prop where
  shows : ∀ uid revoked, both.2.revoked.lookup uid = some revoked → both.1.store.Shows uid revoked
  known : ∀ asked ∈ both.2.asked, both.2.revoked.lookup asked.uid = some asked.revoked
  placed : ∀ asked ∈ both.2.asked, asked.place < both.1.calls.length
  serves : ∀ asked ∈ both.2.asked, ∀ call,
    both.1.Waits asked.place call → call.Serves asked.uid asked.revoked
  answered : ∀ answer ∈ both.2.answers, answer.user.map Document.account = some answer.revoked

section

variable {store : Store} {uid other : Uid} {revoked account : Account}
  {change : Account → Account} {user : Document}

theorem userCacheKey_injective (same : userCacheKey uid = userCacheKey other) :
    uid = other :=
  (String.append_right_inj _).mp same

theorem Store.Shows.update (shows : store.Shows uid revoked)
    (elsewhere : uid ≠ other) :
    (store.update other change).Shows uid revoked := by
  rw [Store.update]
  split
  · exact shows
  · constructor
    · exact (AList.lookup_insert_ne elsewhere).trans shows.stored
    · exact shows.cached

theorem Store.Shows.keep (shows : store.Shows uid revoked)
    (current : other = uid → user.account = revoked) :
    (store.keep other user).Shows uid revoked := by
  constructor
  · exact shows.stored
  · intro cached found
    by_cases same : other = uid
    · subst same
      have kept : some user = some cached := (AList.lookup_insert store.cache).symm.trans found
      cases kept
      exact current rfl
    · have apart : userCacheKey uid ≠ userCacheKey other :=
        fun equal => same (userCacheKey_injective equal).symm
      exact shows.cached cached ((AList.lookup_insert_ne apart).symm.trans found)

theorem Store.shows_invalidate (stored : store.users.lookup uid = some revoked) :
    (store.invalidate uid).Shows uid revoked := by
  constructor
  · exact stored
  · intro user found
    cases (AList.lookup_erase _ store.cache).symm.trans found

theorem Store.Shows.invalidate (shows : store.Shows uid revoked) :
    (store.invalidate other).Shows uid revoked := by
  by_cases same : uid = other
  · subst same
    exact Store.shows_invalidate shows.stored
  · constructor
    · exact shows.stored
    · intro user found
      have apart : userCacheKey uid ≠ userCacheKey other :=
        fun equal => same (userCacheKey_injective equal)
      exact shows.cached user ((AList.lookup_erase_ne apart).symm.trans found)

theorem Store.Shows.document (shows : store.Shows uid revoked) :
    (store.document uid).map Document.account = some revoked := by
  rw [Store.document, shows.stored]
  rfl

end

section

variable {both : Calls × Seen} {index : ℕ} {call : Call} {store : Store} {next : Option Call}

theorem Consistent.own (consistent : Consistent both)
    (waits : both.1.Waits index call) :
    ∀ asked ∈ both.2.asked, asked.place = index → call.Serves asked.uid asked.revoked := by
  intro asked member here
  subst here
  exact consistent.serves asked member call waits

theorem Consistent.resumed (consistent : Consistent both)
    (waits : both.1.Waits index call)
    (shows : ∀ uid revoked, both.2.revoked.lookup uid = some revoked → store.Shows uid revoked)
    (follows : ∀ asked ∈ both.2.asked, asked.place = index →
      ∀ call', next = some call' → call'.Serves asked.uid asked.revoked) :
    Consistent (both.1.resumed index store next, both.2) where
  shows := shows
  known := consistent.known
  placed := fun asked member => by
    rw [Configuration.resumed, List.length_set]
    exact consistent.placed asked member
  serves := fun asked member call' waits' => by
    rcases (waits_resumed waits).mp waits' with ⟨_, old⟩ | ⟨here, follow⟩
    · exact consistent.serves asked member call' old
    · exact follows asked member here call' follow
  answered := consistent.answered

theorem Consistent.served (consistent : Consistent both)
    {user : Option Document}
    (expected : ∀ asked ∈ both.2.asked, asked.place = index →
      user.map Document.account = some asked.revoked) :
    Consistent (both.1, both.2.served index user) where
  shows := consistent.shows
  known := consistent.known
  placed := consistent.placed
  serves := consistent.serves
  answered := fun answer member => by
    rcases List.mem_append.mp member with new | old
    · rcases List.mem_map.mp new with ⟨asked, filtered, rfl⟩
      rcases List.mem_filter.mp filtered with ⟨member, here⟩
      exact expected asked member (eq_of_beq here)
    · exact consistent.answered answer old

theorem Consistent.changed (consistent : Consistent both) {uid : Uid}
    {change : Account → Account} (waits : both.1.Waits index call)
    (revokes : ∀ uid revoked, ¬ call.Serves uid revoked) :
    Consistent
      (both.1.resumed index (both.1.store.update uid change) next, both.2.changed uid) where
  shows := fun other revoked found => by
    by_cases same : other = uid
    · subst same
      cases (AList.lookup_erase _ both.2.revoked).symm.trans found
    · exact (consistent.shows other revoked
        ((AList.lookup_erase_ne same).symm.trans found)).update same
  known := fun asked member => by
    rcases List.mem_filter.mp member with ⟨member, apart⟩
    exact (AList.lookup_erase_ne (bne_iff_ne.mp apart)).trans (consistent.known asked member)
  placed := fun asked member => by
    rw [Configuration.resumed, List.length_set]
    exact consistent.placed asked (List.mem_filter.mp member).1
  serves := fun asked member call' waits' => by
    have earlier := (List.mem_filter.mp member).1
    rcases (waits_resumed waits).mp waits' with ⟨_, old⟩ | ⟨here, _⟩
    · exact consistent.serves asked earlier call' old
    · exact (revokes _ _ (consistent.own waits asked earlier here)).elim
  answered := consistent.answered

theorem Consistent.returned (consistent : Consistent both) {uid : Uid}
    {updated : Account}
    (shows : both.1.store.Shows uid updated) :
    Consistent (both.1, both.2.returned uid updated) where
  shows := fun other revoked found => by
    by_cases same : other = uid
    · subst same
      cases (AList.lookup_insert both.2.revoked).symm.trans found
      exact shows
    · exact consistent.shows other revoked ((AList.lookup_insert_ne same).symm.trans found)
  known := fun asked member => by
    have known := consistent.known asked member
    by_cases same : asked.uid = uid
    · have stored := (consistent.shows _ _ known).stored
      rw [same, shows.stored] at stored
      cases stored
      rw [same]
      exact AList.lookup_insert _
    · exact (AList.lookup_insert_ne same).trans known
  placed := consistent.placed
  serves := consistent.serves
  answered := consistent.answered

theorem Consistent.entered (consistent : Consistent both) :
    Consistent (both.1.entered call, both.2) where
  shows := consistent.shows
  known := consistent.known
  placed := fun asked member => by
    rw [Configuration.entered, List.length_append]
    exact Nat.lt_add_right _ (consistent.placed asked member)
  serves := fun asked member call' waits => by
    rcases waits_entered.mp waits with old | ⟨here, _⟩
    · exact consistent.serves asked member call' old
    · exact (Nat.ne_of_lt (consistent.placed asked member) here).elim
  answered := consistent.answered

theorem Consistent.asks (consistent : Consistent both) {uid : Uid} :
    Consistent (both.1.entered (.look uid), both.2.asks both.1.calls.length uid) := by
  have entered : Consistent (both.1.entered (.look uid), both.2) := consistent.entered
  unfold Seen.asks
  split
  · exact entered
  · rename_i revoked found
    constructor
    · exact entered.shows
    · intro asked member
      rcases List.mem_cons.mp member with rfl | old
      · exact found
      · exact consistent.known asked old
    · intro asked member
      rcases List.mem_cons.mp member with rfl | old
      · simp [Configuration.entered]
      · exact entered.placed asked old
    · intro asked member call waits
      rcases List.mem_cons.mp member with rfl | old
      · rcases waits_entered.mp waits with within | ⟨_, rfl⟩
        · exact (Nat.lt_irrefl _ (List.getElem?_eq_some_iff.mp within).1).elim
        · rfl
      · exact entered.serves asked old call waits
    · exact consistent.answered

/-- A call that runs on keeps what the observer expects. -/
theorem consistent_ran (consistent : Consistent both) {now : Instant}
    (allowed : upToDate both (.resume index now) = true)
    (waits : both.1.Waits index call)
    (resumes : resume now call both.1.store = some (store, next)) :
    Consistent (both.1.resumed index store next, both.2.ran index both.1.store call) := by
  cases call with
  | look uid =>
    unfold resume at resumes
    dsimp only at resumes
    cases cached : both.1.store.cache.lookup (userCacheKey uid) with
    | none =>
      rw [cached] at resumes
      cases resumes
      rw [Seen.ran, cached]
      exact consistent.resumed waits consistent.shows
        fun asked member here call' follow => by
          cases follow
          exact consistent.own waits asked member here
    | some user =>
      rw [cached] at resumes
      cases resumes
      rw [Seen.ran, cached]
      have expected : ∀ asked ∈ both.2.asked, asked.place = index →
          (some user).map Document.account = some asked.revoked := by
        intro asked member here
        have own : uid = asked.uid := consistent.own waits asked member here
        have shows := consistent.shows _ _ (consistent.known asked member)
        exact congrArg some (shows.cached user (own ▸ cached))
      exact (consistent.served expected).resumed waits consistent.shows
        fun _ _ _ call' follow => by cases follow
  | load uid =>
    unfold resume at resumes
    dsimp only at resumes
    have read : ∀ asked ∈ both.2.asked, asked.place = index →
        uid = asked.uid ∧ (both.1.store.document uid).map
          Document.account = some asked.revoked := by
      intro asked member here
      have own : uid = asked.uid := consistent.own waits asked member here
      have shows := consistent.shows _ _ (consistent.known asked member)
      exact ⟨own, own ▸ shows.document⟩
    cases found : both.1.store.document uid with
    | none =>
      rw [found] at resumes read
      cases resumes
      rw [Seen.ran, found]
      exact (consistent.served fun asked member here =>
        (read asked member here).2).resumed waits consistent.shows
          fun _ _ _ call' follow => by cases follow
    | some user =>
      rw [found] at resumes read
      cases resumes
      rw [Seen.ran, found]
      exact consistent.resumed waits consistent.shows
        fun asked member here call' follow => by
          cases follow
          rcases read asked member here with ⟨own, same⟩
          exact ⟨own, Option.some.inj same⟩
  | keep uid user =>
    cases resumes
    have expected : ∀ asked ∈ both.2.asked, asked.place = index →
        (some user).map Document.account = some asked.revoked := by
      intro asked member here
      have serves := consistent.own waits asked member here
      exact congrArg some serves.2
    refine (consistent.served expected).resumed waits ?_
      fun _ _ _ call' follow => by cases follow
    intro other revoked found
    refine (consistent.shows other revoked found).keep ?_
    intro same
    rw [upToDate, waits] at allowed
    have found : both.2.revoked.lookup uid = some revoked := same ▸ found
    dsimp only at allowed
    rw [found, Option.all_some] at allowed
    exact (eq_of_beq allowed).symm
  | expire | deactivate =>
    cases resumes
    exact consistent.changed waits fun _ _ serves => serves
  | signOut uid updated =>
    cases resumes
    exact consistent.resumed waits consistent.shows
      fun asked member here _ _ =>
        (consistent.own waits asked member here : False).elim
  | count uid role =>
    have silent : ∀ after,
        Consistent (both.1.resumed index both.1.store after, both.2) :=
      fun _ => consistent.resumed waits consistent.shows
        fun asked member here _ _ =>
          (consistent.own waits asked member here : False).elim
    unfold resume at resumes
    dsimp only at resumes
    split at resumes <;> cases resumes <;> exact silent _
  | invalidate uid updated =>
    cases resumes
    have dropped : Consistent
        (both.1.resumed index (both.1.store.invalidate uid) none, both.2) :=
      consistent.resumed waits (fun other revoked found =>
          (consistent.shows other revoked found).invalidate)
        fun _ _ _ call' follow => by cases follow
    cases updated with
    | none => exact dropped
    | some updated =>
      unfold Seen.ran
      dsimp only
      split
      · rename_i stored
        exact dropped.returned (Store.shows_invalidate stored)
      · exact dropped

theorem consistent_step {both' : Calls × Seen}
    {move : Move Request Instant} (consistent : Consistent both)
    (allowed : upToDate both move = true)
    (stepped : (sessions.system.observed see).step move both = some both') : Consistent both' := by
  rcases both' with ⟨after, seen⟩
  rcases System.observed_step stepped with ⟨stepped', seen'⟩
  dsimp only at stepped' seen'
  subst seen'
  cases Service.stepped_of_step stepped' with
  | entered request call enters =>
    cases request with
    | findOneByIdWithRoleCached uid =>
      cases enters
      exact consistent.asks
    | revokeSessions | deactivateUser => exact consistent.entered
  | resumed index now call store next waits resumes =>
    have seen : see both.1 (.resume index now)
        (both.1.resumed index store next) both.2 = both.2.ran index both.1.store call := by
      have waits : both.1.calls[index]? = some (some call) := waits
      rw [see, waits]
    rw [seen]
    exact consistent_ran consistent allowed waits resumes

end

/--
In a run in which no reader caches an account that has been revoked since it was
loaded, every reader that begins after the revoking call has returned is served the
account as that call returned it, unless it changes before.
-/
theorem revokedAccountsAreServedRevoked {store : Store}
    {both : Calls × Seen}
    (reached : (sessions.system.observed see).Reaches
      (fun both move => upToDate both move = true)
      (.start store, {}) both) :
    ∀ answer ∈ both.2.answers, answer.user.map Document.account = some answer.revoked := by
  have consistent : Consistent both := by
    refine reached.invariant Consistent ?_ ?_
    · constructor
      · intro uid revoked found
        cases found
      · exact fun _ member => (List.not_mem_nil member).elim
      · exact fun _ member => (List.not_mem_nil member).elim
      · exact fun _ member => (List.not_mem_nil member).elim
      · exact fun _ member => (List.not_mem_nil member).elim
    · exact fun _ _ _ consistent allowed stepped =>
        consistent_step consistent allowed stepped
  exact consistent.answered

namespace Sample

def customer : Account where
  role := some "role"
  isActive := true
  sessionsValidAfter := none

def store : Store where
  users := AList.insert "customer" customer ∅
  roles := AList.insert "role" { roleId := "customer" } ∅
  cache := ∅

def reads : Move Request Instant := .enter (.findOneByIdWithRoleCached "customer")

def deactivates : Move Request Instant := .enter (.deactivateUser "customer" (some "admin"))

def goesOn (index : ℕ) : Move Request Instant := .resume index 9

def right (both : Calls × Seen) : List Bool :=
  both.2.answers.map fun answer =>
    decide (answer.user.map Document.account = some answer.revoked)

end Sample

open Revocation.Sample

/-- A cached account is deactivated, and the next reader finds it so. -/
theorem revokedAccountsAreServedRevoked_next :
    ∃ both : Calls × Seen,
      (sessions.system.observed see).Reaches
          (fun both move => upToDate both move = true)
          (.start store, {}) both ∧
        both.2.answers.length = 1 ∧
        ∀ answer ∈ both.2.answers, answer.user.map Document.account = some answer.revoked := by
  have performed :
      (((sessions.system.observed see).restrict
          (fun both move => upToDate both move = true)).perform
        [reads, goesOn 0, goesOn 0, goesOn 0, deactivates, goesOn 1,
          goesOn 1, reads, goesOn 2, goesOn 2, goesOn 2]
        (.start store, {})).map (fun both => both.2.answers.length) =
          some 1 := by
    decide +kernel
  rcases System.reaches_of_map_restrict performed with ⟨both, reached, answered⟩
  exact ⟨both, reached, answered, revokedAccountsAreServedRevoked reached⟩

/-- A reader caches the account as it was before it was deactivated. -/
theorem revokedAccountServedActive :
    ¬ ∀ (store : Store) (both : Calls × Seen),
      (sessions.system.observed see).Reaches (fun _ _ => True) (.start store, {}) both →
      ∀ answer ∈ both.2.answers, answer.user.map Document.account = some answer.revoked := by
  intro always
  have performed :
      ((sessions.system.observed see).perform
        [reads, goesOn 0, goesOn 0, deactivates, goesOn 1, goesOn 1,
          goesOn 0, reads, goesOn 2] (.start store, {})).map right =
        some [false] := by
    decide +kernel
  rcases System.reaches_of_map performed with ⟨both, ran, served⟩
  have served' : right both = [true] := by
    have all := always store both ran
    have length : both.2.answers.length = 1 := by
      rw [← List.length_map, ← right, served]
      rfl
    rcases List.length_eq_one_iff.mp length with ⟨answer, only⟩
    rw [right, only, List.map_singleton,
      decide_eq_true (all answer (only ▸ List.mem_singleton_self _))]
  rw [served] at served'
  cases served'

end Lalaba.Auth.Revocation
