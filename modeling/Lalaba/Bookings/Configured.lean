import Lalaba.Bookings.Calendar
import Lalaba.Foundation.Interleaving

/-!
# The type a provider is configured with

The configuration of a branch is created by whichever call looks for it first, with the
provider type of that call, and every later call trusts the type that is stored.  Only
for a washer are the windows of a day those of her own hours.  As long as no call
creates the configuration of a washer's branch with another type, what is bookable
there is bookable in her hours.
-/

namespace Lalaba.Bookings

open Foundation
open Foundation.Configuration
open Orders (ProviderType)

def WEEK_ORDER : List DayKey :=
  [.monday, .tuesday, .wednesday, .thursday, .friday, .saturday, .sunday]

/-- `offersProviderDelivery`, on the stored week. -/
def offersProviderDelivery (config : BookingAvailabilityConfig) : Bool :=
  WEEK_ORDER.any fun dayKey =>
    (dayFulfillmentOf (config.weekly dayKey).fulfillment).providerDelivery

/-! ## Calls -/

inductive Query where
  | getOrCreateConfig
  | calendar (fromDate : Option String) (days : Option ℤ)
  | dayAvailability (date : String)
  | offersProviderDelivery
  | assertDayBookable (requested : String)
      (fulfillment : RequestedFulfillment)
      (session : Option (List BookedOrder))
deriving DecidableEq

/-- The arguments of a call; the provider type is the caller's. -/
structure ConfigRequest where
  branchId : ObjectId
  providerType : ProviderType
  query : Query

/-- A call, at the point where it waits. -/
inductive ConfigCall where
  | find (request : ConfigRequest)
  | create (request : ConfigRequest)
  | answer (config : BookingAvailabilityConfig) (request : ConfigRequest)

inductive Answer where
  | config (config : BookingAvailabilityConfig)
  | days (days : List BookingDayAvailability)
  | delivers (delivers : Bool)
  | booked (day : BookingDayAvailability)
  | refused

def Answer.rendered : Answer → List BookingDayAvailability
  | .days rendered => rendered
  | .booked day => [day]
  | _ => []

def Store.withConfig (config : BookingAvailabilityConfig) (store : Store) :
    Store :=
  { store with configs := store.configs.insert config.branchId config }

/-- What a call answers, and what it writes besides the configuration. -/
def answer (now : Instant) (config : BookingAvailabilityConfig)
    (request : ConfigRequest) (store : Store) : Answer × Store :=
  let view := store.withConfig config
  match request.query with
  | .getOrCreateConfig => (.config config, store)
  | .calendar fromDate days =>
    match view.calendar now request.branchId request.providerType fromDate days with
    | .error _ => (.refused, store)
    | .ok (days, after) =>
      (.days days, { store with policy := after.policy })
  | .dayAvailability date =>
    match view.dayAvailability now request.branchId request.providerType date with
    | .error _ => (.refused, store)
    | .ok (day, after) =>
      (.days day.toList, { store with policy := after.policy })
  | .offersProviderDelivery =>
    (.delivers (offersProviderDelivery config), store)
  | .assertDayBookable requested fulfillment session =>
    match assertRealDate requested, view.assertDayBookable now
        request.branchId request.providerType requested fulfillment
        session with
    | .ok date, .ok (_, after) =>
      (.booked (view.requestedDay now request.branchId
          request.providerType date session),
        { store with
          policy := after.policy
          counters := after.counters })
    | _, _ => (.refused, store)

def enterConfig (request : ConfigRequest) (_ : Store) :
    Option ConfigCall :=
  match request.query with
  | .assertDayBookable requested _ _ =>
    (assertRealDate requested).toOption.map fun _ => .find request
  | _ => some (.find request)

def resumeConfig (now : Instant) :
    ConfigCall → Store → Option (Store × Option ConfigCall)
  | .find request, store =>
    match store.configs.lookup request.branchId with
    | some config => some (store, some (.answer config request))
    | none => some (store, some (.create request))
  | .create request, store =>
    -- The branch is unique among the configurations.
    if (store.configs.lookup request.branchId).isSome then
      some (store, none)
    else
      let config := store.configOf request.branchId request.providerType
      some (store.withConfig config, some (.answer config request))
  | .answer config request, store =>
    some ((answer now config request store).2, none)

def availability : Service Store ConfigCall ConfigRequest Instant where
  enter := enterConfig
  resume := resumeConfig

abbrev ConfigCalls : Type := Configuration Store ConfigCall

/-- An answer about a branch. -/
structure Answered where
  branchId : ObjectId
  answer : Answer

def seeAnswers (configuration : ConfigCalls)
    (move : Move ConfigRequest Instant) (_ : ConfigCalls)
    (answers : List Answered) : List Answered :=
  match move with
  | .enter _ => answers
  | .resume index now =>
    match configuration.calls[index]? with
    | some (some (.answer config request)) =>
      { branchId := request.branchId
        answer := (answer now config request configuration.store).1 } :: answers
    | _ => answers

def ConfigCall.honest (store : Store) : ConfigCall → Bool
  | .create request =>
    (store.configs.lookup request.branchId).isSome ||
      (store.washers.lookup request.branchId).isNone || request.providerType == .washer
  | _ => true

def honest (configuration : ConfigCalls) :
    Move ConfigRequest Instant → Bool
  | .enter _ => true
  | .resume index _ =>
    match configuration.calls[index]? with
    | some (some call) => call.honest configuration.store
    | _ => true

/-! ## The hours of a washer -/

def Store.hoursOn (hours : DayKey → Option OperatingHoursDay)
    (dayKey : DayKey) (store : Store) : Bool × List BookingWindow :=
  boundedHours (hours dayKey) (store.current.universalDays dayKey)

/--
A day of a washer with hours that is bookable without an override is a day on which she
is open, in the windows of her hours.
-/
def Store.InHours (store : Store) (branchId : ObjectId)
    (day : BookingDayAvailability) : Prop :=
  ∀ washer hours, store.washers.lookup branchId = some washer →
    washer.operatingHours = some hours → day.isBookable = true →
    (∀ row ∈ store.overrides, row.branchId = branchId → dateKey row.date ≠ day.date) →
    (store.hoursOn hours day.dayOfWeek).1 = true ∧
      day.windows = normalizeWindows (store.hoursOn hours day.dayOfWeek).2

section

variable {store view : Store} {now : Instant}
  {config : BookingAvailabilityConfig} {branchId : ObjectId}
  {providerType : ProviderType} {date today : Day} {nowMinutes : ℕ}
  {entitlement : EffectiveEntitlement} {day : EffectiveDay}
  {blackout : Bool} {dateOverride : Option BookingDateOverride}
  {blackouts : List BookingBlackout} {booked : ℕ}
  {hours : DayKey → Option OperatingHoursDay}

theorem accepting_of_free
    (free : dayUnavailableReason config entitlement date today nowMinutes
      day blackout booked = none) : day.isAcceptingBookings = true := by
  simp only [dayUnavailableReason, passed_iff, Bool.not_eq_true] at free
  rcases free with ⟨_, _, _, _, _, _, accepting, _⟩
  exact Bool.eq_true_of_not_eq_false accepting

theorem resolveDay_inHours {stored : DayKey → DayBookingConfig}
    (week : config.weekly = weeklyFromOperatingHours hours stored store.current.universalDays)
    (bookable : (resolveDay now config entitlement date none blackouts booked).isBookable = true) :
    (store.hoursOn hours (dayKeyOf date)).1 = true ∧
      (resolveDay now config entitlement date none blackouts booked).windows =
        normalizeWindows (store.hoursOn hours (dayKeyOf date)).2 := by
  have free := Option.isNone_iff_eq_none.mp (Bool.and_eq_true_iff.mp bookable).1
  have accepting := accepting_of_free free
  have windows : (resolveDay now config entitlement date none blackouts
      booked).windows =
      (effectiveDay config (dayKeyOf date) entitlement none).windows := rfl
  rw [windows]
  simp only [effectiveDay, week, weeklyFromOperatingHours] at accepting ⊢
  rw [Store.hoursOn]
  generalize boundedHours (hours (dayKeyOf date))
    (store.current.universalDays (dayKeyOf date)) = bounded at accepting ⊢
  rcases bounded with ⟨isOpen, shown⟩
  simp only [Option.map_none, Option.getD_none, Bool.false_eq_true,
    if_false, Option.getD_some, Bool.and_eq_true, bne_iff_ne, ne_eq]
    at accepting ⊢
  rcases accepting with ⟨isOpen, some⟩
  refine ⟨isOpen, ?_⟩
  rw [if_pos trivial, if_neg some]

theorem find?_override_eq_none
    (unmarked : ∀ row ∈ store.overrides, row.branchId = branchId →
      dateKey row.date ≠ dateKey date) :
    (store.overrides.find? fun row =>
      row.branchId == branchId && row.date == date) = none := by
  rw [List.find?_eq_none]
  intro row member fits
  rcases Bool.and_eq_true_iff.mp fits with ⟨here, on⟩
  exact unmarked row member (eq_of_beq here) (congrArg dateKey (eq_of_beq on))

theorem resolvedConfig_weekly {washer : WasherProfile}
    (own : config.branchId = branchId)
    (typed : config.providerType = .washer)
    (stored : store.washers.lookup branchId = some washer)
    (set : washer.operatingHours = some hours) :
    (store.resolvedConfig config).weekly =
      weeklyFromOperatingHours hours config.weekly
        store.current.universalDays := by
  rw [Store.resolvedConfig, typed, own, stored, Option.bind_some, set]

theorem configOf_withConfig (own : config.branchId = branchId) :
    (store.withConfig config).configOf branchId providerType = config := by
  rw [Store.configOf, Store.withConfig, own, AList.lookup_insert, Option.getD_some]

theorem inHours_resolveDay
    (own : config.branchId = branchId)
    (typed : (store.washers.lookup branchId).isSome = true → config.providerType = .washer) :
    store.InHours branchId
      (resolveDay now (store.resolvedConfig config) entitlement date
        (store.overrides.find? fun row =>
          row.branchId == branchId && row.date == date)
        blackouts booked) := by
  intro washer hours stored set bookable unmarked
  have week := resolvedConfig_weekly own (typed (by rw [stored]; rfl)) stored set
  have without := find?_override_eq_none unmarked
  rw [without] at bookable ⊢
  exact resolveDay_inHours week bookable

/-- Every day an answer shows or lets in is in hours. -/
theorem inHours_answer {request : ConfigRequest}
    {rendered : BookingDayAvailability}
    (own : config.branchId = request.branchId)
    (typed : (store.washers.lookup request.branchId).isSome = true → config.providerType = .washer)
    (member : rendered ∈ (answer now config request store).1.rendered) :
    store.InHours request.branchId rendered := by
  have calendar : ∀ {fromDate days shown after},
      (store.withConfig config).calendar now request.branchId
          request.providerType fromDate days = .ok (shown, after) →
        rendered ∈ shown → store.InHours request.branchId rendered := by
    intro fromDate days shown after renders listed
    rcases Store.calendar_ok renders listed with ⟨date, rfl⟩
    rw [configOf_withConfig own]
    exact @inHours_resolveDay (store.withConfig config) _ _ _ _ _ _ _ own typed
  rw [answer] at member
  cases query : request.query with
  | getOrCreateConfig | offersProviderDelivery =>
    rw [query] at member
    cases member
  | calendar fromDate days =>
    rw [query] at member
    dsimp only at member
    split at member
    · cases member
    · rename_i shown after renders
      exact calendar renders member
  | dayAvailability date =>
    rw [query] at member
    dsimp only at member
    split at member
    · cases member
    · rename_i day after renders
      rw [Store.dayAvailability] at renders
      cases shown : (store.withConfig config).calendar now
          request.branchId request.providerType (some date) (some 1) with
      | error _ =>
        rw [shown] at renders
        cases renders
      | ok result =>
        rw [shown] at renders
        cases renders
        apply calendar shown
        exact List.mem_of_head? (Option.mem_toList.mp member)
  | assertDayBookable requested fulfillment session =>
    rw [query] at member
    dsimp only at member
    split at member
    · cases List.mem_singleton.mp member
      rw [Store.requestedDay_eq, configOf_withConfig own]
      exact @inHours_resolveDay (store.withConfig config) _ _ _ _ _ _ _ own typed
    · cases member

theorem calendar_policy {fromDate : Option String} {days : Option ℤ}
    {shown : List BookingDayAvailability} {after : Store}
    (renders : store.calendar now branchId providerType fromDate days = .ok (shown, after)) :
    after.policy = some store.current := by
  rcases real : assertRealDate (fromDate.getD (dateKey (phDay now))) with
    error | first
  · simp only [Store.calendar, real] at renders
    cases renders
  · simp only [Store.calendar, real] at renders
    cases renders
    rfl

/-- What an answer leaves as it was. -/
structure Store.Alike (store after : Store) : Prop where
  configs : after.configs = store.configs
  washers : after.washers = store.washers
  overrides : after.overrides = store.overrides
  current : after.current = store.current

/-- An answer writes the policy it has read, and counters. -/
theorem alike_answer {request : ConfigRequest} :
    store.Alike (answer now config request store).2 := by
  have seeded : ∀ (policy : Option BookingPolicy) (counters : SlotCounters),
      policy = some store.current → store.Alike { store with policy, counters } := by
    rintro policy counters rfl
    exact ⟨rfl, rfl, rfl, rfl⟩
  have current : (store.withConfig config).current = store.current := rfl
  rw [answer]
  cases request.query with
  | getOrCreateConfig | offersProviderDelivery => exact ⟨rfl, rfl, rfl, rfl⟩
  | calendar fromDate days =>
    dsimp only
    split
    · exact ⟨rfl, rfl, rfl, rfl⟩
    · rename_i shown after renders
      have policy := calendar_policy renders
      rw [current] at policy
      exact seeded after.policy store.counters policy
  | dayAvailability date =>
    dsimp only
    split
    · exact ⟨rfl, rfl, rfl, rfl⟩
    · rename_i day after renders
      apply seeded after.policy store.counters
      rw [Store.dayAvailability] at renders
      cases shown : (store.withConfig config).calendar now
          request.branchId request.providerType (some date) (some 1) with
      | error _ =>
        rw [shown] at renders
        cases renders
      | ok result =>
        rw [shown] at renders
        cases renders
        rw [calendar_policy shown, current]
  | assertDayBookable requested fulfillment session =>
    dsimp only
    split
    · rename_i date result after real booked
      rcases Store.assertDayBookable_ok.mp booked with ⟨_, _, _, _, _, same⟩
      cases same
      exact seeded _ _ (congrArg some current)
    · exact ⟨rfl, rfl, rfl, rfl⟩

end

/-! ## Interleavings -/

section

variable {start store after : Store} {both both' : ConfigCalls × List Answered}
  {move : Move ConfigRequest Instant} {now : Instant} {call : ConfigCall}
  {next : Option ConfigCall}

def Store.Typed (store : Store) : Prop :=
  ∀ branchId config, store.configs.lookup branchId = some config →
    config.branchId = branchId ∧
      ((store.washers.lookup branchId).isSome = true → config.providerType = .washer)

/-- What the calls do not write is as at the start. -/
structure Store.Follows (start store : Store) : Prop where
  washers : store.washers = start.washers
  overrides : store.overrides = start.overrides
  current : store.current = start.current
  typed : store.Typed

def ConfigCall.Sound (start : Store) : ConfigCall → Prop
  | .answer config request =>
    config.branchId = request.branchId ∧
      ((start.washers.lookup request.branchId).isSome = true → config.providerType = .washer)
  | _ => True

theorem Store.InHours.congr {branchId : ObjectId}
    {day : BookingDayAvailability} (follows : start.Follows store)
    (inHours : store.InHours branchId day) : start.InHours branchId day := by
  intro washer hours stored set bookable unmarked
  rw [← follows.washers] at stored
  rw [← follows.overrides] at unmarked
  have derived : store.hoursOn hours day.dayOfWeek = start.hoursOn hours day.dayOfWeek := by
    rw [Store.hoursOn, Store.hoursOn, follows.current]
  rw [← derived]
  exact inHours washer hours stored set bookable unmarked

theorem Store.Follows.create {request : ConfigRequest}
    (follows : start.Follows store)
    (missing : store.configs.lookup request.branchId = none)
    (allowed : (ConfigCall.create request).honest store = true) :
    start.Follows (store.withConfig
        (store.configOf request.branchId request.providerType)) ∧
      (ConfigCall.answer (store.configOf request.branchId request.providerType)
        request).Sound start := by
  have default : store.configOf request.branchId request.providerType =
      { branchId := request.branchId
        providerType := request.providerType
        weekly := fun _ => Store.defaultWeek } := by
    rw [Store.configOf, missing, Option.getD_none]
  have honest : (store.washers.lookup request.branchId).isSome = true →
      request.providerType = .washer := by
    intro washer
    rw [ConfigCall.honest, missing, Option.isSome_none, Bool.false_or] at allowed
    rcases Bool.or_eq_true_iff.mp allowed with absent | same
    · rcases Option.isSome_iff_exists.mp washer with ⟨profile, found⟩
      rw [found] at absent
      cases absent
    · exact eq_of_beq same
  rw [default]
  refine ⟨⟨follows.washers, follows.overrides, follows.current, ?_⟩, rfl, ?_⟩
  · intro branchId config stored
    by_cases own : branchId = request.branchId
    · subst own
      rw [Store.withConfig, AList.lookup_insert] at stored
      cases stored
      exact ⟨rfl, honest⟩
    · rw [Store.withConfig, AList.lookup_insert_ne own] at stored
      exact follows.typed branchId config stored
  · rw [← follows.washers]
    exact honest

theorem Store.Follows.alike (follows : start.Follows store)
    (alike : store.Alike after) : start.Follows after where
  washers := alike.washers.trans follows.washers
  overrides := alike.overrides.trans follows.overrides
  current := alike.current.trans follows.current
  typed := by
    intro branchId config stored
    rw [alike.configs] at stored
    rw [alike.washers]
    exact follows.typed branchId config stored

theorem obligations :
    availability.Obligations (fun _ => True)
      (fun configuration move => honest configuration move = true)
      start.Follows (fun _ => ConfigCall.Sound start) where
  entered := by
    intro request store call _ enters
    simp only [availability, enterConfig] at enters
    split at enters
    · rcases Option.map_eq_some_iff.mp enters with ⟨date, _, rfl⟩
      trivial
    · cases enters
      trivial
  resumed := by
    intro configuration index now call store next _ allowed waits follows sound resumes
    rw [honest, waits] at allowed
    cases call with
    | find request =>
      simp only [availability, resumeConfig] at resumes
      split at resumes
      · rename_i config stored
        cases resumes
        refine ⟨follows, ?_⟩
        intro call' continues
        cases continues
        have typed := follows.typed _ _ stored
        rw [follows.washers] at typed
        exact typed
      · cases resumes
        refine ⟨follows, ?_⟩
        intro call' continues
        cases continues
        trivial
    | create request =>
      simp only [availability, resumeConfig] at resumes
      split at resumes
      · cases resumes
        exact ⟨follows, fun _ absent => by cases absent⟩
      · rename_i missing
        cases resumes
        rcases follows.create (Option.not_isSome_iff_eq_none.mp missing)
          allowed with ⟨follows', sound'⟩
        refine ⟨follows', ?_⟩
        intro call' continues
        cases continues
        exact sound'
    | answer config request =>
      cases resumes
      exact ⟨follows.alike alike_answer, fun _ absent => by cases absent⟩
  stable := fun _ _ _ _ _ _ _ _ _ _ _ _ _ _ _ sound _ => sound

theorem answers_step
    (sited : Service.Invariant start.Follows (fun _ => ConfigCall.Sound start) both.1)
    (inHours : ∀ answered ∈ both.2, ∀ day ∈ answered.answer.rendered,
      start.InHours answered.branchId day)
    (stepped : (availability.system.observed seeAnswers).step move both = some both') :
    ∀ answered ∈ both'.2, ∀ day ∈ answered.answer.rendered,
      start.InHours answered.branchId day := by
  rcases both' with ⟨after, answers⟩
  rcases System.observed_step stepped with ⟨ran, seen⟩
  dsimp only at ran seen
  subst seen
  cases Service.stepped_of_step ran with
  | entered request call enters => exact inHours
  | resumed index now call store next waits resumes =>
    rw [seeAnswers, waits]
    cases call with
    | find | create => exact inHours
    | answer config request =>
      intro answered member day shown
      rcases List.mem_cons.mp member with rfl | old
      · rcases sited.sound index _ waits with ⟨own, typed⟩
        apply Store.InHours.congr sited.good
        apply inHours_answer own _ shown
        rw [sited.good.washers]
        exact typed
      · exact inHours answered old day shown

/--
In a run in which no call creates the configuration of a washer's branch with another
provider type, the configuration of every branch that has a washer is a washer's; and
every day that is shown or let in as bookable there, on a date without an override, is
a day on which she is open, in the windows of her hours within the universal week.
-/
theorem washersAreConfiguredAsWashers (typed : start.Typed)
    (reached : (availability.system.observed seeAnswers).Reaches
      (fun both move => honest both.1 move = true) (.start start, []) both) :
    (∀ branchId config washer, both.1.store.configs.lookup branchId = some config →
      both.1.store.washers.lookup branchId = some washer → config.providerType = .washer) ∧
    ∀ answered ∈ both.2, ∀ day ∈ answered.answer.rendered, start.InHours answered.branchId day := by
  have invariant : Service.Invariant start.Follows
      (fun _ => ConfigCall.Sound start) both.1 ∧
        ∀ answered ∈ both.2, ∀ day ∈ answered.answer.rendered,
          start.InHours answered.branchId day := by
    refine reached.invariant
      (fun both => Service.Invariant start.Follows
        (fun _ => ConfigCall.Sound start) both.1 ∧
          ∀ answered ∈ both.2, ∀ day ∈ answered.answer.rendered,
            start.InHours answered.branchId day) ?_ ?_
    · exact ⟨Service.invariant_start ⟨rfl, rfl, rfl, typed⟩,
        fun _ absent => (List.not_mem_nil absent).elim⟩
    · intro _ _ _ ⟨sited, inHours⟩ allowed stepped
      exact
        ⟨obligations.step trivial sited allowed (System.observed_step stepped).1,
          answers_step sited inHours stepped⟩
  refine ⟨?_, invariant.2⟩
  intro branchId config washer stored profile
  exact (invariant.1.good.typed branchId config stored).2 (by rw [profile]; rfl)

end

namespace Hours

def washer : WasherProfile where
  operatingHours := some fun _ =>
    some
      { isOpen := true
        is24Hours := false
        timeSlots := [{ «open» := "10:00", close := "12:00" }] }
  ratingCount := 0
  overallAverage := 0
  isVerified := true
  isActive := true

def store : Store where
  configs := ∅
  overrides := []
  blackouts := []
  washers := AList.singleton "branch" washer
  policy := none
  milestones := []
  campaigns := []
  orders := []
  counters _ := 0
  overrides_unique := Store.unique_nil

def asks (providerType : ProviderType) :
    List (Move ConfigRequest Instant) :=
  [.enter
      { branchId := "branch"
        providerType
        query := .dayAvailability "2026-01-06" },
    .resume 0 Week.now, .resume 0 Week.now, .resume 0 Week.now]

def seen (both : ConfigCalls × List Answered) :
    Option ProviderType × List (List BookingWindow) :=
  ((both.1.store.configs.lookup "branch").map BookingAvailabilityConfig.providerType,
    (both.2.flatMap fun answered => answered.answer.rendered).filterMap
      fun day => if day.isBookable then some day.windows else none)

end Hours

theorem Hours.typed : Hours.store.Typed := by
  intro branchId config stored
  cases stored

/-- Asked for as a washer, she is bookable from ten to twelve. -/
theorem washersAreConfiguredAsWashers_hours :
    ∃ both : ConfigCalls × List Answered,
      (availability.system.observed seeAnswers).Reaches
          (fun both move => honest both.1 move = true)
          (.start Hours.store, []) both ∧
        Hours.seen both = (some .washer, [[{ start := "10:00", end_ := "12:00" }]]) ∧
        ∀ answered ∈ both.2, ∀ day ∈ answered.answer.rendered,
          Hours.store.InHours answered.branchId day := by
  have performed :
      (((availability.system.observed seeAnswers).restrict
          (fun both move => honest both.1 move = true)).perform
        (Hours.asks .washer) (.start Hours.store, [])).map Hours.seen =
        some (some .washer, [[{ start := "10:00", end_ := "12:00" }]]) := by
    decide +kernel
  rcases System.reaches_of_map_restrict performed with ⟨both, reached, seen⟩
  exact ⟨both, reached, seen, (washersAreConfiguredAsWashers Hours.typed reached).2⟩

/-- Asked for as a laundromat, she is bookable from eight to eight. -/
theorem washerConfiguredAsMerchant :
    ¬ ∀ (start : Store) (both : ConfigCalls × List Answered),
      start.Typed →
      (availability.system.observed seeAnswers).Reaches (fun _ _ => True)
          (.start start, []) both →
        (∀ branchId config washer, both.1.store.configs.lookup branchId = some config →
          both.1.store.washers.lookup branchId = some washer → config.providerType = .washer) ∧
        ∀ answered ∈ both.2, ∀ day ∈ answered.answer.rendered,
          start.InHours answered.branchId day := by
  intro always
  have performed :
      ((availability.system.observed seeAnswers).perform
        (Hours.asks .merchant) (.start Hours.store, [])).map
          (fun both => (Hours.seen both, (both.1.store.washers.lookup "branch").isSome)) =
        some ((some .merchant, [[{ start := "08:00", end_ := "20:00" }]]), true) := by
    decide +kernel
  rcases System.reaches_of_map performed with ⟨both, ran, seen⟩
  rcases Prod.mk.inj seen with ⟨shown, profile⟩
  have typed := (always Hours.store both Hours.typed ran).1
  rcases Option.map_eq_some_iff.mp (Prod.mk.inj shown).1 with ⟨config, stored, type⟩
  rcases Option.isSome_iff_exists.mp profile with ⟨washer, found⟩
  cases (typed "branch" config washer stored found).symm.trans type

end Lalaba.Bookings
