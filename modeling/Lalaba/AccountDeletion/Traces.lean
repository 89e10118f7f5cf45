import Lalaba.AccountDeletion.Documents
import Lalaba.Foundation.Residue

/-!
# Traces of a person

Two databases that differ only in what they tell of one person, and what an erasure
makes of the difference.  It goes where a write names it; the address book, the
headers of conversations, the access instructions and the coordinates of attempts
are among what no write names.
-/

namespace Lalaba.AccountDeletion

open Foundation
open Orders (AttemptEvidence)

/-! ## Without the person -/

abbrev People : Type := Collection User × (Uid → CourierVerification.Account)

def User.impersonal (user : User) : User :=
  { user with
    firstName := ""
    lastName := ""
    email := ""
    phoneNumber := ""
    homeAddress := {} }

namespace People

def impersonal (uid : Uid) (people : People) : People :=
  match people.1.lookup uid with
  | none => people
  | some user =>
    (people.1.insert uid user.impersonal,
      Function.update people.2 uid { people.2 uid with photoUrl := none })

def anonymized (uid : Uid) (now : Instant) (people : People) : People :=
  match people.1.lookup uid with
  | none => people
  | some user =>
    (people.1.insert uid (user.anonymized uid now), Function.update people.2 uid {})

end People

/-- Without the text and the images of a profile. -/
def StoredProfile.impersonal (row : StoredProfile) : StoredProfile :=
  { row with
    displayName := ""
    storeName := none
    phone := none
    photoUrl := none
    bio := none
    description := none
    logoUrl := none
    coverPhotoUrl := none
    address := none
    mapLocation := none
    certProofUrls := none
    legacyCertProofUrls := none
    certProofObjectKeys := []
    featuredPhotos := []
    selfiePublicObjectKey := none }

def StoredLog.impersonal (uid : Uid) (row : StoredLog) : StoredLog :=
  { row with
    actorName := if row.actorId == uid then "" else row.actorName
    actorEmail := if row.actorId == uid then "" else row.actorEmail
    metadata := if row.actorId == uid then none else row.metadata
    targetName := if row.targetId == some uid then none else row.targetName }

def OrderCustomer.impersonal (customer : OrderCustomer) : OrderCustomer where
  uid := customer.uid
  displayName := ""
  maskedPhone := none
  address := none
  mapLocation := none
  areaLabel := none

def StoredOrder.anonymous (row : StoredOrder) : StoredOrder :=
  { row with
    customer := row.customer.impersonal
    instructions := row.instructions.redacted
    pickupAttempts := row.pickupAttempts.map AttemptEvidence.redacted
    deliveryAttempts := row.deliveryAttempts.map AttemptEvidence.redacted }

def StoredOrder.impersonal (uid : Uid) (row : StoredOrder) : StoredOrder :=
  { if row.customer.uid == uid then row.anonymous else row with
    provider :=
      if row.provider.providerUid == uid then
        { row.provider with providerName := "" }
      else row.provider }

def StoredBooking.impersonal (row : StoredBooking) : StoredBooking where
  customerId := row.customerId
  customerName := none
  customerPhone := none
  pickupAddress := none
  deliveryAddress := none

def ConversationHeader.impersonal (uid : Uid) (row : ConversationHeader) :
    ConversationHeader :=
  { row with
    customerName := if row.customerUid == uid then "" else row.customerName
    providerName := if row.providerUid == uid then "" else row.providerName }

namespace Database

def people (db : Database) : People := (db.users, db.verification.accounts)

def impersonal (uid : Uid) (db : Database) : Database :=
  { db with
    users := (db.people.impersonal uid).1
    verification := { db.verification with accounts := (db.people.impersonal uid).2 }
    washerProfiles := updateMany (fun row => row.uid == uid)
      StoredProfile.impersonal db.washerProfiles
    activityLogs := db.activityLogs.map (StoredLog.impersonal uid)
    orders := db.orders.map (StoredOrder.impersonal uid)
    bookings := updateMany (fun row => row.customerId == uid) StoredBooking.impersonal db.bookings
    addresses := deleteMany (fun row => row.uid == uid) db.addresses
    conversations := db.conversations.map (ConversationHeader.impersonal uid) }

def visible (db : Database) : Database := { db with records := [] }

end Database

/-! ## What an erasure leaves of the rows -/

namespace StoredProfile

/-- The images that no write names. -/
structure Residue where
  featuredPhotos : List String
  selfiePublicObjectKey : Option String

def residue (row : StoredProfile) : Residue where
  featuredPhotos := row.featuredPhotos
  selfiePublicObjectKey := row.selfiePublicObjectKey

end StoredProfile

namespace StoredLog

structure Residue where
  targetName : Option String
  metadata : Option String

def residue (row : StoredLog) : Residue where
  targetName := row.targetName
  metadata := row.metadata

end StoredLog

namespace StoredOrder

structure Residue where
  providerName : String
  accessInstructions : Option String
  pickupAttempts : List AttemptEvidence
  deliveryAttempts : List AttemptEvidence

def residue (row : StoredOrder) : Residue where
  providerName := row.provider.providerName
  accessInstructions := row.instructions.accessInstructions
  pickupAttempts := row.pickupAttempts
  deliveryAttempts := row.deliveryAttempts

end StoredOrder

namespace StoredBooking

structure Residue where
  pickupAddress : Option String
  deliveryAddress : Option String

def residue (row : StoredBooking) : Residue where
  pickupAddress := row.pickupAddress
  deliveryAddress := row.deliveryAddress

end StoredBooking

section

variable {uid : Uid} {now : Instant}

theorem leaves_people :
    Leaves (People.impersonal uid) (People.anonymized uid now)
      fun _ => () := by
  apply Leaves.of_split (fun _ => ()) (fun people _ => People.anonymized uid now people)
  · intro _
    rfl
  · intro people
    rw [People.impersonal]
    split
    · rfl
    · rename_i user found
      rw [People.anonymized, People.anonymized, found, AList.lookup_insert]
      dsimp only
      rw [AList.insert_insert, Function.update_idem]
      rfl

theorem leaves_profile : Leaves (fun row : StoredProfile =>
        if row.uid == uid then row.impersonal else row)
      (fun row => if row.uid == uid then row.scrubbed else row)
      StoredProfile.residue := by
  apply Leaves.of_split StoredProfile.residue
    fun shown rest =>
      { if shown.uid == uid then shown.scrubbed else shown with
        featuredPhotos := rest.featuredPhotos
        selfiePublicObjectKey := rest.selfiePublicObjectKey }
  · intro row
    split <;> rfl
  · intro row
    cases own : row.uid == uid with
    | true => simp [own, StoredProfile.impersonal, StoredProfile.scrubbed,
        StoredProfile.residue, WasherProfile.scrubbed]
    | false => simp [own, StoredProfile.residue]

theorem leaves_log :
    Leaves (StoredLog.impersonal uid)
      (fun row => if row.actorId == uid then row.redacted else row)
      StoredLog.residue := by
  apply Leaves.of_split StoredLog.residue
    fun shown rest =>
      { if shown.actorId == uid then shown.redacted else shown with
        targetName := rest.targetName
        metadata := rest.metadata }
  · intro row
    split <;> rfl
  · intro row
    cases own : row.actorId == uid with
    | true => simp [own, StoredLog.impersonal, StoredLog.redacted,
        StoredLog.residue, ActivityLog.redacted]
    | false => simp [own, StoredLog.impersonal, StoredLog.residue]

theorem leaves_order :
    Leaves (StoredOrder.impersonal uid)
      (fun row => if row.customer.uid == uid then row.redacted else row)
      StoredOrder.residue := by
  apply Leaves.of_split StoredOrder.residue
    fun shown rest =>
      { if shown.customer.uid == uid then shown.redacted else shown with
        provider := { shown.provider with providerName := rest.providerName }
        instructions :=
          { shown.instructions with
            accessInstructions := rest.accessInstructions }
        pickupAttempts := rest.pickupAttempts
        deliveryAttempts := rest.deliveryAttempts }
  · intro row
    split <;> rfl
  · intro row
    have provider : { (row.impersonal uid).provider with
          providerName := row.provider.providerName } = row.provider := by
      rw [StoredOrder.impersonal]
      dsimp only
      split <;> rfl
    cases own : row.customer.uid == uid with
    | true =>
      simp only [provider, StoredOrder.residue]
      simp [own, StoredOrder.impersonal, StoredOrder.anonymous,
        StoredOrder.redacted, OrderCustomer.redacted,
        OrderCustomer.impersonal, Orders.OrderInstructions.redacted]
    | false =>
      simp only [provider, StoredOrder.residue]
      simp [own, StoredOrder.impersonal]

theorem leaves_booking : Leaves (fun row : StoredBooking =>
        if row.customerId == uid then row.impersonal else row)
      (fun row => if row.customerId == uid then row.redacted else row)
      StoredBooking.residue := by
  apply Leaves.of_split StoredBooking.residue
    fun shown rest =>
      { if shown.customerId == uid then shown.redacted else shown with
        pickupAddress := rest.pickupAddress
        deliveryAddress := rest.deliveryAddress }
  · intro row
    split <;> rfl
  · intro row
    cases own : row.customerId == uid with
    | true => simp [own, StoredBooking.impersonal, StoredBooking.redacted,
        StoredBooking.residue, WasherBooking.redacted]
    | false => simp [own, StoredBooking.residue]

end

namespace Weather

def completed (weather : Weather) (steps : List Erasure) : List Erasure :=
  steps.takeWhile fun step => !weather.stops step

def reaches (weather : Weather) (step : Erasure) : Bool :=
  decide (step ∈ weather.completed Erasure.all)

end Weather

namespace Database

variable {weather : Weather} {uid : Uid} {now : Instant}

def WrittenBy {Part : Type} (weather : Weather) (uid : Uid) (now : Instant)
    (part : Database → Part) (owner : Erasure) (write : Part → Part) :
    Prop :=
  ∀ step both, part (run weather uid now step both).1 =
    if step = owner then write (part both.1) else part both.1

def Unwritten {Part : Type} (weather : Weather) (uid : Uid) (now : Instant)
    (part : Database → Part) : Prop :=
  ∀ step both, part (run weather uid now step both).1 = part both.1

variable {Part : Type}

variable {part : Database → Part}

theorem WrittenBy.runAll {owner : Erasure} {write : Part → Part}
    (written : WrittenBy weather uid now part owner write)
    {steps : List Erasure} (nodup : steps.Nodup)
    (both : Database × ProcessingSummary) :
    part (runAll weather uid now steps both).1 =
      if owner ∈ weather.completed steps then write (part both.1)
      else part both.1 := by
  induction steps generalizing both with
  | nil => rfl
  | cons step rest induction =>
    rcases List.nodup_cons.mp nodup with ⟨fresh, nodup⟩
    rw [Database.runAll, Weather.completed, List.takeWhile_cons]
    cases stops : weather.stops step with
    | true => rfl
    | false =>
      simp only [Bool.false_eq_true, if_false, Bool.not_false, if_true, List.mem_cons]
      rw [induction nodup, written step both]
      by_cases here : step = owner
      · subst here
        have later : step ∉ weather.completed rest := fun member =>
          fresh ((List.takeWhile_sublist _).subset member)
        rw [if_neg later, if_pos rfl, if_pos (.inl rfl)]
      · rw [if_neg here]
        simp only [Ne.symm here, false_or]
        rfl

theorem Unwritten.runAll (unwritten : Unwritten weather uid now part)
    (steps : List Erasure) (both : Database × ProcessingSummary) :
    part (runAll weather uid now steps both).1 = part both.1 := by
  induction steps generalizing both with
  | nil => rfl
  | cons step rest induction =>
    rw [Database.runAll]
    split
    · rfl
    · rw [induction, unwritten step both]

theorem WrittenBy.eraseAccount {owner : Erasure} {write : Part → Part}
    (written : WrittenBy weather uid now part owner write) (db : Database) :
    part (db.eraseAccount weather uid now).1 =
      if weather.reaches owner then write (part db) else part db := by
  rw [Database.eraseAccount, written.runAll (by decide)]
  simp only [Weather.reaches, decide_eq_true_eq]

/-! ## The parts of a database -/

theorem writtenBy_people : WrittenBy weather uid now people .user (People.anonymized uid now) := by
  intro step both
  cases step with
  | user =>
    rw [if_pos rfl, People.anonymized]
    change people (both.1.write (both.1.store.anonymize uid now)) = _
    rw [Store.anonymize]
    change _ = match both.1.store.users.lookup uid with
      | none => _
      | some user => _
    cases found : both.1.store.users.lookup uid with
    | none => rfl
    | some user =>
      dsimp only
      rw [Store.updateUser_of_some found]
      rfl
  | identity =>
    rw [run]
    split
    · rfl
    · cases weather.reply <;> rfl
  | _ => rfl

theorem writtenBy_washerProfiles :
    WrittenBy weather uid now washerProfiles .washerProfile
      (updateMany (fun row => row.uid == uid) StoredProfile.scrubbed) := by
  intro step both
  cases step <;> rfl

theorem writtenBy_activityLogs :
    WrittenBy weather uid now activityLogs .activityLogs
      (updateMany (fun row => row.actorId == uid) StoredLog.redacted) := by
  intro step both
  cases step <;> rfl

theorem writtenBy_orders :
    WrittenBy weather uid now orders .orders
      (updateMany (fun row => row.customer.uid == uid) StoredOrder.redacted) := by
  intro step both
  cases step <;> rfl

theorem writtenBy_bookings :
    WrittenBy weather uid now bookings .bookings
      (updateMany (fun row => row.customerId == uid) StoredBooking.redacted) := by
  intro step both
  cases step <;> rfl

theorem unwritten_addresses : Unwritten weather uid now addresses := by
  intro step both
  cases step <;> rfl

theorem unwritten_conversations :
    Unwritten weather uid now conversations := by
  intro step both
  cases step <;> rfl

/-- The selfies, the devices, the identities, the cache and the time. -/
structure Surroundings where
  selfies : List CourierVerification.CourierSelfie
  uploaded : List String
  deleted : List String
  devices : List Device
  identities : List Uid
  cached : List Uid
  clock : Instant

def surroundings (db : Database) : Surroundings where
  selfies := db.verification.selfies
  uploaded := db.verification.uploaded
  deleted := db.verification.deleted
  devices := db.devices
  identities := db.identities
  cached := db.cached
  clock := db.clock

theorem surroundings_user {both : Database × ProcessingSummary} :
    (run weather uid now .user both).1.surroundings =
      both.1.surroundings := by
  change (both.1.write (both.1.store.anonymize uid now)).surroundings = _
  rw [Store.anonymize]
  split
  · rfl
  · rename_i user found
    rw [Store.updateUser_of_some found]
    rfl

/-- What an await does to the surroundings depends on nothing else. -/
theorem surroundings_run {left right : Database × ProcessingSummary}
    (same : left.1.surroundings = right.1.surroundings) (step : Erasure) :
    (run weather uid now step left).1.surroundings =
      (run weather uid now step right).1.surroundings := by
  cases step with
  | user => rw [surroundings_user, surroundings_user, same]
  | cache =>
    exact congrArg (fun surroundings : Surroundings =>
      { surroundings with
        cached := deleteMany (fun other => other == uid) surroundings.cached }) same
  | selfieObjects =>
    exact congrArg (fun surroundings : Surroundings =>
      { surroundings with
        deleted :=
          ((surroundings.selfies.filter
            fun row : CourierVerification.CourierSelfie =>
              row.courierUid == uid).map
              CourierVerification.CourierSelfie.storageKey).filter
                (fun key => key != "" && weather.answers key) ++
            surroundings.deleted }) same
  | selfieRows =>
    exact congrArg (fun surroundings : Surroundings =>
      { surroundings with
        selfies := surroundings.selfies.filter fun row =>
          row.courierUid != uid }) same
  | devices =>
    exact congrArg (fun surroundings : Surroundings =>
      { surroundings with
        devices := deleteMany (fun row => row.uid == uid) surroundings.devices }) same
  | identity =>
    rw [run, run]
    split
    · exact same
    · cases weather.reply with
      | deleted =>
        exact congrArg (fun surroundings : Surroundings =>
          { surroundings with
            identities := deleteMany (fun other => other == uid) surroundings.identities }) same
      | userNotFound | failed => exact same
  | washerProfile | activityLogs | orders | bookings | record => exact same

theorem surroundings_runAll (steps : List Erasure)
    {left right : Database × ProcessingSummary}
    (same : left.1.surroundings = right.1.surroundings) :
    (runAll weather uid now steps left).1.surroundings =
      (runAll weather uid now steps right).1.surroundings := by
  induction steps generalizing left right with
  | nil => exact same
  | cons step rest induction =>
    rw [runAll, runAll]
    split
    · exact same
    · exact induction (surroundings_run same step)

/-! ## What an erasure leaves of a database -/

/--
What an erasure leaves of a person: what no write names, and the whole of a
collection whose write it does not get to.
-/
structure Residue where
  people : Unit ⊕ People
  washerProfiles : List StoredProfile.Residue ⊕ List StoredProfile
  activityLogs : List StoredLog.Residue ⊕ List StoredLog
  orders : List StoredOrder.Residue ⊕ List StoredOrder
  bookings : List StoredBooking.Residue ⊕ List StoredBooking
  addresses : List Addresses.Address
  conversations : List ConversationHeader

def residue (weather : Weather) (db : Database) : Residue where
  people :=
    if weather.reaches .user then .inl () else .inr db.people
  washerProfiles :=
    if weather.reaches .washerProfile then
      .inl (db.washerProfiles.map StoredProfile.residue)
    else .inr db.washerProfiles
  activityLogs :=
    if weather.reaches .activityLogs then
      .inl (db.activityLogs.map StoredLog.residue)
    else .inr db.activityLogs
  orders :=
    if weather.reaches .orders then
      .inl (db.orders.map StoredOrder.residue)
    else .inr db.orders
  bookings :=
    if weather.reaches .bookings then
      .inl (db.bookings.map StoredBooking.residue)
    else .inr db.bookings
  addresses := db.addresses
  conversations := db.conversations

theorem visible_eq_iff {left right : Database} :
    left.visible = right.visible ↔
      left.people = right.people ∧
        left.surroundings = right.surroundings ∧
        left.washerProfiles = right.washerProfiles ∧
        left.activityLogs = right.activityLogs ∧
        left.orders = right.orders ∧ left.bookings = right.bookings ∧
        left.addresses = right.addresses ∧
        left.conversations = right.conversations := by
  rcases left with ⟨_, ⟨_, _, _, _⟩, _, _, _, _, _, _, _, _, _, _, _⟩
  rcases right with ⟨_, ⟨_, _, _, _⟩, _, _, _, _, _, _, _, _, _, _, _⟩
  simp only [visible, people, surroundings, Database.mk.injEq,
    CourierVerification.Store.mk.injEq, Surroundings.mk.injEq, Prod.mk.injEq]
  tauto

section

variable {left right : Database}

theorem WrittenBy.agree {Part Shown Rest : Type} {part : Database → Part}
    {owner : Erasure} {write : Part → Part} {hide : Part → Shown}
    {rest : Part → Rest}
    (written : WrittenBy weather uid now part owner write)
    (leaves : Leaves hide write rest)
    (alike : hide (part left) = hide (part right)) :
    part (left.eraseAccount weather uid now).1 =
        part (right.eraseAccount weather uid now).1 ↔
      (if weather.reaches owner then (.inl (rest (part left)) : Rest ⊕ Part)
        else .inr (part left)) =
      if weather.reaches owner then .inl (rest (part right))
        else .inr (part right) := by
  rw [written.eraseAccount, written.eraseAccount]
  exact leaves.provided (weather.reaches owner) alike

theorem surroundings_eraseAccount
    (same : left.surroundings = right.surroundings) :
    (left.eraseAccount weather uid now).1.surroundings =
      (right.eraseAccount weather uid now).1.surroundings :=
  surroundings_runAll Erasure.all same

/--
Databases that differ only in what identifies a person look the same after the
erasure of the account just when they have the same residue.
-/
theorem erasedAlikeIffSameResidue (weather : Weather) (uid : Uid)
    (now : Instant) (left right : Database)
    (alike : left.impersonal uid = right.impersonal uid) :
    (left.eraseAccount weather uid now).1.visible =
        (right.eraseAccount weather uid now).1.visible ↔
      left.residue weather = right.residue weather := by
  have people := (@writtenBy_people weather uid now).agree leaves_people
    (congrArg Database.people alike)
  have profiles := (@writtenBy_washerProfiles weather uid now).agree
    leaves_profile.map (congrArg washerProfiles alike)
  have logs := (@writtenBy_activityLogs weather uid now).agree
    leaves_log.map (congrArg activityLogs alike)
  have orders := (@writtenBy_orders weather uid now).agree
    leaves_order.map (congrArg Database.orders alike)
  have bookings := (@writtenBy_bookings weather uid now).agree
    leaves_booking.map (congrArg Database.bookings alike)
  have outside : left.surroundings = right.surroundings :=
    show (left.impersonal uid).surroundings =
      (right.impersonal uid).surroundings from congrArg _ alike
  have around : (left.eraseAccount weather uid now).1.surroundings =
      (right.eraseAccount weather uid now).1.surroundings :=
    surroundings_eraseAccount outside
  have addresses : ∀ db : Database,
      (db.eraseAccount weather uid now).1.addresses = db.addresses :=
    fun db => unwritten_addresses.runAll Erasure.all (db, {})
  have conversations : ∀ db : Database,
      (db.eraseAccount weather uid now).1.conversations =
        db.conversations :=
    fun db => unwritten_conversations.runAll Erasure.all (db, {})
  rw [visible_eq_iff, people, profiles, logs, orders, bookings,
    addresses left, addresses right, conversations left, conversations right]
  simp only [residue, Residue.mk.injEq, around, true_and]

end

end Database

namespace Sample

/-- What is stored of a customer who has asked for deletion. -/
def database (customer : User) (addresses : List Addresses.Address) : Database where
  users := AList.singleton "customer" customer
  verification := .empty
  devices := []
  washerProfiles := []
  activityLogs := []
  orders := []
  bookings := []
  addresses := addresses
  conversations := []
  records := [record]
  identities := ["customer"]
  cached := []
  clock := 0

def home : Addresses.Address where
  uid := "customer"
  label := some "Home"
  address :=
    { unit := none
      regionName := "NCR"
      provinceName := "Metro Manila"
      cityMunicipalityName := "Makati"
      barangayName := "Poblacion"
      streetAddress := "1 Rizal"
      zipCode := none }
  mapLocation := { latitude := 14, longitude := 121 }
  accessInstructions := some "Blue gate"
  isDefault := true
  createdAt := 0

end Sample

/-- Two customers of different names are erased to the same database. -/
theorem erasedAlikeIffSameResidue_names :
    ((Sample.database Sample.customer []).eraseAccount {} "customer"
        0).1.visible =
      ((Sample.database { Sample.customer with firstName := "Bea" }
        []).eraseAccount {} "customer" 0).1.visible :=
  (Database.erasedAlikeIffSameResidue {} "customer" 0
    (Sample.database Sample.customer [])
    (Sample.database { Sample.customer with firstName := "Bea" } [])
    rfl).mpr rfl

/-- An address tells two customers apart after their erasure. -/
theorem addressSurvivesErasure :
    ¬ ∀ (weather : Weather) (uid : Uid) (now : Instant)
      (left right : Database),
      (left.eraseAccount weather uid now).2 = true →
      (right.eraseAccount weather uid now).2 = true →
      left.impersonal uid = right.impersonal uid →
      (left.eraseAccount weather uid now).1.visible =
        (right.eraseAccount weather uid now).1.visible := by
  intro holds
  have same := holds {} "customer" 0
    (Sample.database Sample.customer [Sample.home])
    (Sample.database Sample.customer [{ Sample.home with accessInstructions := some "Red gate" }])
    rfl rfl rfl
  have addresses := congrArg Database.addresses same
  exact absurd addresses (by decide)

end Lalaba.AccountDeletion
