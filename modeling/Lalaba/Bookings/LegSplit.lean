import Lalaba.Bookings.Configured

/-!
# The legs of the provider, split apart

A fulfillment block that was written long ago has one flag for both legs of the
provider.  Its readers let either leg inherit the flag; a migration writes down what
they read and removes the flag.
-/

namespace Lalaba.Bookings

open Orders (ProviderType)

/-- `splitOf`: the old value wins only where the new flags are absent. -/
def splitOf (fulfillment : StoredFulfillment) : Bool × Bool :=
  let legacy := fulfillment.pickupAndDelivery.getD true
  (fulfillment.providerPickup.getD legacy, fulfillment.providerDelivery.getD legacy)

/-- The `$set` and the `$unset` of a block that still has the old flag. -/
def StoredFulfillment.split (fulfillment : StoredFulfillment) : StoredFulfillment :=
  if fulfillment.pickupAndDelivery.isSome then
    { fulfillment with
      providerPickup := some (splitOf fulfillment).1
      providerDelivery := some (splitOf fulfillment).2
      pickupAndDelivery := none }
  else
    fulfillment

/-- The filter of the migration, on the block of one day. -/
def isLegacy (fulfillment : Option StoredFulfillment) : Bool :=
  fulfillment.any fun fulfillment => fulfillment.pickupAndDelivery.isSome

def BookingAvailabilityConfig.isLegacy (config : BookingAvailabilityConfig) : Bool :=
  WEEK_ORDER.any fun dayKey => Bookings.isLegacy (config.weekly dayKey).fulfillment

def BookingAvailabilityConfig.split (config : BookingAvailabilityConfig) :
    BookingAvailabilityConfig :=
  { config with
    weekly := fun dayKey =>
      { config.weekly dayKey with
        fulfillment := (config.weekly dayKey).fulfillment.map StoredFulfillment.split } }

def BookingDateOverride.split (row : BookingDateOverride) : BookingDateOverride :=
  { row with fulfillment := row.fulfillment.map StoredFulfillment.split }

structure SplitFulfillmentLegsMigrationResult where
  configsMatched : ℕ
  configsUpdated : ℕ
  overridesMatched : ℕ
  overridesUpdated : ℕ
  affectedConfigs : List ObjectId
  affectedOverrides : List (ObjectId × Day)

/-- One `updateOne` of the first loop. -/
def updateConfig (configs : Collection BookingAvailabilityConfig)
    (doc : Sigma fun _ : String => BookingAvailabilityConfig) :
    Collection BookingAvailabilityConfig :=
  configs.insert doc.1 doc.2.split

/-- The migration; without `apply` it counts what it would change. -/
def migrateSplitFulfillmentLegs (apply : Bool) (store : Store) :
    Store × SplitFulfillmentLegsMigrationResult :=
  let configDocs := store.configs.entries.filter fun doc => doc.2.isLegacy
  let overrideDocs := store.overrides.filter fun row => isLegacy row.fulfillment
  let result : SplitFulfillmentLegsMigrationResult :=
    { configsMatched := configDocs.length
      configsUpdated := if apply then configDocs.length else 0
      overridesMatched := overrideDocs.length
      overridesUpdated := if apply then overrideDocs.length else 0
      affectedConfigs := configDocs.map Sigma.fst
      affectedOverrides := overrideDocs.map fun row => (row.branchId, row.date) }
  if apply then
    ({ store with
      configs := configDocs.foldl updateConfig store.configs
      overrides := store.overrides.map BookingDateOverride.split
      overrides_unique := by
        rw [List.map_map]
        exact store.overrides_unique }, result)
  else
    (store, result)

/-! ## What is read -/

/-- A block as its readers take it. -/
def asRead (fulfillment : StoredFulfillment) : StoredFulfillment :=
  (dayFulfillmentOf (some fulfillment)).stored

def BookingAvailabilityConfig.asRead (config : BookingAvailabilityConfig) :
    BookingAvailabilityConfig :=
  { config with
    weekly := fun dayKey =>
      { config.weekly dayKey with
        fulfillment := some (dayFulfillmentOf (config.weekly dayKey).fulfillment).stored } }

def BookingDateOverride.asRead (row : BookingDateOverride) : BookingDateOverride :=
  { row with fulfillment := row.fulfillment.map Bookings.asRead }

/-- Two stores whose blocks are read alike. -/
structure Store.ReadAlike (store after : Store) : Prop where
  configs : ∀ branchId,
    (after.configs.lookup branchId).map BookingAvailabilityConfig.asRead =
      (store.configs.lookup branchId).map BookingAvailabilityConfig.asRead
  overrides : after.overrides.map BookingDateOverride.asRead =
    store.overrides.map BookingDateOverride.asRead
  rest : after = { store with
    configs := after.configs
    overrides := after.overrides
    overrides_unique := after.overrides_unique }

theorem dayFulfillmentOf_split (fulfillment : StoredFulfillment) :
    dayFulfillmentOf (some fulfillment.split) = dayFulfillmentOf (some fulfillment) := by
  rw [StoredFulfillment.split]
  split
  · rename_i legacy
    rcases Option.isSome_iff_exists.mp legacy with ⟨flag, present⟩
    simp only [dayFulfillmentOf, splitOf, present, Option.getD_some]
    cases fulfillment.providerPickup <;> cases fulfillment.providerDelivery <;> rfl
  · rfl

theorem asRead_splitConfig (config : BookingAvailabilityConfig) :
    config.split.asRead = config.asRead := by
  simp only [BookingAvailabilityConfig.asRead, BookingAvailabilityConfig.split]
  congr 1
  funext dayKey
  congr 3
  cases (config.weekly dayKey).fulfillment with
  | none => rfl
  | some fulfillment => exact dayFulfillmentOf_split fulfillment

theorem asRead_splitOverride (row : BookingDateOverride) : row.split.asRead = row.asRead := by
  rw [BookingDateOverride.asRead, BookingDateOverride.asRead, BookingDateOverride.split,
    Option.map_map]
  congr 1
  cases row.fulfillment with
  | none => rfl
  | some fulfillment =>
    exact congrArg (some ∘ DayFulfillment.stored) (dayFulfillmentOf_split fulfillment)

theorem effectiveDay_asRead (config : BookingAvailabilityConfig) (dayKey : DayKey)
    (entitlement : EffectiveEntitlement) (row : Option BookingDateOverride) :
    effectiveDay config.asRead dayKey entitlement (row.map BookingDateOverride.asRead) =
      effectiveDay config dayKey entitlement row := by
  cases row with
  | none => rfl
  | some row =>
    rcases row with ⟨_, _, _, _, _, _, fulfillment⟩
    cases fulfillment <;> rfl

theorem resolveDay_asRead (now : Instant) (config : BookingAvailabilityConfig)
    (entitlement : EffectiveEntitlement) (date : Day) (row : Option BookingDateOverride)
    (blackouts : List BookingBlackout) (booked : ℕ) :
    resolveDay now config.asRead entitlement date (row.map BookingDateOverride.asRead)
        blackouts booked =
      resolveDay now config entitlement date row blackouts booked := by
  simp only [resolveDay, effectiveDay_asRead]
  rfl

theorem Store.resolvedConfig_asRead (store : Store) (config : BookingAvailabilityConfig) :
    store.resolvedConfig config.asRead = (store.resolvedConfig config).asRead := by
  simp only [Store.resolvedConfig, BookingAvailabilityConfig.asRead]
  split <;> rfl

/-- The overrides that are found in two stores that are read alike are read alike. -/
theorem find_asRead {rows rows' : List BookingDateOverride}
    (alike : rows'.map BookingDateOverride.asRead = rows.map BookingDateOverride.asRead)
    (wanted : BookingDateOverride → Bool)
    (blind : ∀ row : BookingDateOverride, wanted row.asRead = wanted row) :
    (rows'.find? wanted).map BookingDateOverride.asRead =
      (rows.find? wanted).map BookingDateOverride.asRead := by
  have found : ∀ rows : List BookingDateOverride,
      (rows.map BookingDateOverride.asRead).find? wanted =
        (rows.find? wanted).map BookingDateOverride.asRead := by
    intro rows
    rw [List.find?_map]
    congr 2
    exact funext blind
  rw [← found, ← found, alike]

namespace Store

variable {store after : Store}

theorem ReadAlike.configOf (alike : store.ReadAlike after) (branchId : ObjectId)
    (providerType : ProviderType) :
    (after.configOf branchId providerType).asRead =
      (store.configOf branchId providerType).asRead := by
  rw [Store.configOf, Store.configOf,
    ← Option.getD_map BookingAvailabilityConfig.asRead,
    ← Option.getD_map BookingAvailabilityConfig.asRead, alike.configs]

theorem ReadAlike.resolvedConfig (alike : store.ReadAlike after) (branchId : ObjectId)
    (providerType : ProviderType) :
    (after.resolvedConfig (after.configOf branchId providerType)).asRead =
      (store.resolvedConfig (store.configOf branchId providerType)).asRead := by
  have same : ∀ config, after.resolvedConfig config = store.resolvedConfig config := by
    rw [alike.rest]
    exact fun _ => rfl
  rw [← resolvedConfig_asRead, ← resolvedConfig_asRead, alike.configOf, same]

/-- Nothing but what is read of the blocks goes into a day. -/
theorem ReadAlike.resolveDay (alike : store.ReadAlike after) (now : Instant)
    (branchId : ObjectId) (providerType : ProviderType)
    (entitlement : EffectiveEntitlement) (date : Day) {row row' : Option BookingDateOverride}
    (rows : row'.map BookingDateOverride.asRead = row.map BookingDateOverride.asRead)
    (blackouts : List BookingBlackout) (booked : ℕ) :
    Bookings.resolveDay now (after.resolvedConfig (after.configOf branchId providerType))
        entitlement date row' blackouts booked =
      Bookings.resolveDay now (store.resolvedConfig (store.configOf branchId providerType))
        entitlement date row blackouts booked := by
  have there := resolveDay_asRead now
    (after.resolvedConfig (after.configOf branchId providerType)) entitlement date row'
    blackouts booked
  rw [← there, alike.resolvedConfig, rows, resolveDay_asRead]

theorem ReadAlike.beside (alike : store.ReadAlike after) :
    (∀ branchId providerType date, after.entitlementFor branchId providerType date =
        store.entitlementFor branchId providerType date) ∧
      after.blackouts = store.blackouts ∧ after.orders = store.orders := by
  rw [alike.rest]
  exact ⟨fun _ _ _ => rfl, rfl, rfl⟩

theorem map_filter_asRead (rows : List BookingDateOverride)
    {wanted : BookingDateOverride → Bool}
    (blind : ∀ row : BookingDateOverride, wanted row.asRead = wanted row) :
    (rows.filter wanted).map BookingDateOverride.asRead =
      (rows.map BookingDateOverride.asRead).filter wanted := by
  rw [List.filter_map]
  congr 2
  exact (funext blind).symm

/-- The calendar is rendered alike. -/
theorem ReadAlike.calendar (alike : store.ReadAlike after) (now : Instant)
    (branchId : ObjectId) (providerType : ProviderType) (fromDate : Option String)
    (days : Option ℤ) :
    (after.calendar now branchId providerType fromDate days).map Prod.fst =
      (store.calendar now branchId providerType fromDate days).map Prod.fst := by
  rcases alike.beside with ⟨entitled, blackouts, orders⟩
  rw [Store.calendar, Store.calendar]
  cases assertRealDate (fromDate.getD (dateKey (phDay now))) with
  | error refused => rfl
  | ok first =>
    simp only [bind, Except.bind, pure, Except.pure, Except.map, entitled, blackouts, orders]
    refine congrArg Except.ok (List.map_congr_left fun date _ => ?_)
    apply alike.resolveDay
    apply find_asRead
    · rw [List.map_reverse, List.map_reverse, map_filter_asRead _ fun _ => rfl,
        map_filter_asRead _ fun _ => rfl, alike.overrides]
    · exact fun _ => rfl

/-- The gate decides alike, and says the same. -/
theorem ReadAlike.assertDayBookable (alike : store.ReadAlike after) (now : Instant)
    (branchId : ObjectId) (providerType : ProviderType) (requested : String)
    (fulfillment : RequestedFulfillment) (session : Option (List BookedOrder)) :
    (after.assertDayBookable now branchId providerType requested fulfillment
        session).map Prod.fst =
      (store.assertDayBookable now branchId providerType requested fulfillment
        session).map Prod.fst := by
  rcases alike.beside with ⟨entitled, blackouts, orders⟩
  have day : ∀ date, after.requestedDay now branchId providerType date session =
      store.requestedDay now branchId providerType date session := by
    intro date
    rw [Store.requestedDay, Store.requestedDay, entitled, blackouts, orders]
    apply alike.resolveDay
    exact find_asRead alike.overrides _ fun _ => rfl
  rw [Store.assertDayBookable, Store.assertDayBookable, entitled]
  cases assertRealDate requested with
  | error refused => rfl
  | ok date =>
    simp only [day, bind, Except.bind]
    split
    · rfl
    · split
      · rfl
      · split <;> rfl

end Store

/-! ## The migration -/

section

variable {configs origin : Collection BookingAvailabilityConfig} {store : Store}
  {docs : List (Sigma fun _ : String => BookingAvailabilityConfig)}

theorem isLegacy_split (fulfillment : Option StoredFulfillment) :
    isLegacy (fulfillment.map StoredFulfillment.split) = false := by
  cases fulfillment with
  | none => rfl
  | some fulfillment =>
    rw [Option.map_some, isLegacy, Option.any_some, StoredFulfillment.split]
    split
    · rfl
    · exact Bool.eq_false_iff.mpr (by assumption)

theorem isLegacy_splitConfig (config : BookingAvailabilityConfig) :
    config.split.isLegacy = false := by
  rw [BookingAvailabilityConfig.isLegacy, List.any_eq_false]
  intro dayKey _
  exact Bool.eq_false_iff.mp (isLegacy_split _)

theorem split_of_not_isLegacy {row : BookingDateOverride}
    (modern : isLegacy row.fulfillment = false) : row.split = row := by
  rcases row with ⟨_, _, _, _, _, _, fulfillment⟩
  cases fulfillment with
  | none => rfl
  | some fulfillment =>
    have without : fulfillment.pickupAndDelivery.isSome = false := modern
    simp [BookingDateOverride.split, StoredFulfillment.split, without]

/-- However far the loop has come, every configuration is read as it was. -/
theorem asRead_foldl_updateConfig
    (stored : ∀ doc ∈ docs, origin.lookup doc.1 = some doc.2)
    (alike : ∀ branchId, (configs.lookup branchId).map BookingAvailabilityConfig.asRead =
      (origin.lookup branchId).map BookingAvailabilityConfig.asRead) (branchId : ObjectId) :
    ((docs.foldl updateConfig configs).lookup branchId).map
        BookingAvailabilityConfig.asRead =
      (origin.lookup branchId).map BookingAvailabilityConfig.asRead := by
  induction docs generalizing configs with
  | nil => exact alike branchId
  | cons doc rest induction =>
    apply induction (fun doc member => stored doc (List.mem_cons_of_mem _ member))
    intro other
    by_cases here : other = doc.1
    · rw [here, updateConfig, AList.lookup_insert, stored doc List.mem_cons_self,
        Option.map_some, Option.map_some, asRead_splitConfig]
    · rw [updateConfig, AList.lookup_insert_ne here, alike]

/-- What still has the old flag waits for its update. -/
theorem isLegacy_foldl_updateConfig
    (waits : ∀ branchId config, configs.lookup branchId = some config →
      config.isLegacy = true → ∃ doc ∈ docs, doc.1 = branchId)
    {branchId : ObjectId} {config : BookingAvailabilityConfig}
    (found : (docs.foldl updateConfig configs).lookup branchId = some config) :
    config.isLegacy = false := by
  induction docs generalizing configs with
  | nil =>
    rw [← Bool.not_eq_true]
    intro legacy
    rcases waits branchId config found legacy with ⟨_, member, _⟩
    cases member
  | cons doc rest induction =>
    apply induction _ found
    intro other stored found' legacy
    by_cases here : other = doc.1
    · rw [here, updateConfig, AList.lookup_insert] at found'
      cases found'
      rw [isLegacy_splitConfig] at legacy
      cases legacy
    · rw [updateConfig, AList.lookup_insert_ne here] at found'
      rcases waits other stored found' legacy with ⟨_, member, rfl⟩
      rcases List.mem_cons.mp member with rfl | later
      · exact (here rfl).elim
      · exact ⟨_, later, rfl⟩

theorem migrate_readAlike : store.ReadAlike (migrateSplitFulfillmentLegs true store).1 where
  configs branchId := by
    apply asRead_foldl_updateConfig _ fun _ => rfl
    intro doc member
    exact AList.mem_lookup_iff.mpr (List.mem_filter.mp member).1
  overrides := by
    refine (List.map_map ..).trans (List.map_congr_left fun row _ => ?_)
    exact asRead_splitOverride row
  rest := rfl

theorem migrate_modern :
    ((migrateSplitFulfillmentLegs true store).1.configs.entries.filter
        fun doc => doc.2.isLegacy) = [] ∧
      ((migrateSplitFulfillmentLegs true store).1.overrides.filter
        fun row => isLegacy row.fulfillment) = [] := by
  constructor
  · rw [List.filter_eq_nil_iff]
    intro doc member
    refine Bool.eq_false_iff.mp (isLegacy_foldl_updateConfig ?_ (AList.mem_lookup_iff.mpr member))
    intro branchId config found legacy
    exact ⟨⟨branchId, config⟩, List.mem_filter.mpr ⟨AList.mem_lookup_iff.mp found, legacy⟩, rfl⟩
  · rw [List.filter_eq_nil_iff]
    intro row member
    rcases List.mem_map.mp member with ⟨old, _, rfl⟩
    exact Bool.eq_false_iff.mp (isLegacy_split _)

/-- A store without the old flag is left as it is. -/
theorem migrate_of_modern
    (configs : (store.configs.entries.filter fun doc => doc.2.isLegacy) = [])
    (overrides : (store.overrides.filter fun row => isLegacy row.fulfillment) = []) :
    migrateSplitFulfillmentLegs true store = (store, ⟨0, 0, 0, 0, [], []⟩) := by
  have same : store.overrides.map BookingDateOverride.split = store.overrides := by
    rw [List.filter_eq_nil_iff] at overrides
    refine (List.map_congr_left fun row member => ?_).trans (List.map_id _)
    exact split_of_not_isLegacy (Bool.eq_false_iff.mpr (overrides row member))
  rw [migrateSplitFulfillmentLegs, if_pos rfl, configs, overrides]
  cases store
  simp only at same
  simp only [List.foldl_nil, List.length_nil, same]
  rfl

end

end Lalaba.Bookings
