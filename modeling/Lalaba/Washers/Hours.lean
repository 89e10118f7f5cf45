import Lalaba.Bookings.Windows

/-!
# The operating hours of a washer

A washer edits her hours in her profile, and the booking engine reads her bookable
windows from them.  The edit compares the texts of a slot, whose pattern has any two
digits for the hour and for the minute; the engine reads them as a time of day, and
drops a window it cannot read.  A slot with a time that no clock shows is therefore
stored and never offered.
-/

namespace Lalaba.Washers.Hours

open Bookings

/-! ## The edit -/

/-- The pattern `^\d{2}:\d{2}$` of both times of a slot. -/
def matchesHHMM (value : String) : Bool :=
  match value.toList with
  | [h, i, ':', m, n] => h.isDigit && i.isDigit && m.isDigit && n.isDigit
  | _ => false

abbrev OperatingHours : Type := AList fun _ : DayKey => OperatingHoursDay

def day (hours : OperatingHours) (dayKey : DayKey) :
    Option OperatingHoursDay :=
  hours.lookup dayKey

/-- `WasherTimeSlotInput` on every slot of every day. -/
def wellFormed (hours : OperatingHours) : Bool :=
  hours.entries.all fun entry =>
    entry.2.timeSlots.all fun slot =>
      matchesHHMM slot.open && matchesHHMM slot.close

def dayName : DayKey → String
  | .sunday => "sunday"
  | .monday => "monday"
  | .tuesday => "tuesday"
  | .wednesday => "wednesday"
  | .thursday => "thursday"
  | .friday => "friday"
  | .saturday => "saturday"

def checkSlot (dayKey : DayKey) (slot : TimeSlot) :
    Except ServiceError Unit :=
  if slot.close ≤ slot.open then
    .error (.badRequest (dayName dayKey ++
      ": closing time must be after opening time (got " ++ slot.open ++ "–" ++ slot.close ++ ")."))
  else
    .ok ()

def checkDay (dayKey : DayKey) (day : OperatingHoursDay) :
    Except ServiceError Unit :=
  if day.is24Hours then .ok () else day.timeSlots.forM (checkSlot dayKey)

def checkHours (hours : OperatingHours) : Except ServiceError Unit :=
  hours.entries.forM fun entry => checkDay entry.1 entry.2

/-- The field of a profile that the engine reads. -/
structure Profile where
  operatingHours : Option OperatingHours := none

/--
`updateProfile`, as far as it is about hours, which a patch leaves alone, clears or
sets; the checks of its other fields come `earlier` and look at no hours.
-/
def updateProfile (profile : Option Profile)
    (earlier : Except ServiceError Unit)
    (operatingHours : Option (Option OperatingHours)) :
    Except ServiceError Profile := do
  match profile with
  | none => .error (.notFound "Washer profile not found")
  | some profile =>
    earlier
    match operatingHours with
    | none => .ok profile
    | some none => .ok { profile with operatingHours := none }
    | some (some hours) => do
        checkHours hours
        .ok { profile with operatingHours := some hours }

/-! ## What a slot says -/

def clockOf (value : String) : Option (ℤ × ℤ) :=
  match value.toList with
  | [h, i, ':', m, n] => do
      let hour ← ofTwoDigits h i
      let minute ← ofTwoDigits m n
      return (hour, minute)
  | _ => none

def OnClock (value : String) : Prop := ∀ clock ∈ clockOf value, clock.1 ≤ 23 ∧ clock.2 ≤ 59

instance (value : String) : Decidable (OnClock value) :=
  inferInstanceAs (Decidable (∀ clock ∈ clockOf value, _))

def minuteOf (value : String) : ℕ :=
  ((clockOf value).map fun clock =>
    (clock.1 * 60 + clock.2).toNat).getD 0

def SlotOnClock (slot : TimeSlot) : Prop := OnClock slot.open ∧ OnClock slot.close

def slotMinutes (slot : TimeSlot) : Set ℕ := Set.Ico (minuteOf slot.open) (minuteOf slot.close)

def clockMinutes (day : OperatingHoursDay) : Set ℕ :=
  { minute | ∃ slot ∈ day.timeSlots, SlotOnClock slot ∧ minute ∈ slotMinutes slot }

variable {hours : OperatingHours} {entry : OperatingHoursDay} {value : String} {dayKey : DayKey}

theorem clockOf_isSome (pattern : matchesHHMM value = true) :
    ∃ clock, clockOf value = some clock := by
  unfold matchesHHMM at pattern
  split at pattern
  · rename_i h i m n shape
    simp only [Bool.and_eq_true] at pattern
    rcases pattern with ⟨⟨⟨h, i⟩, m⟩, n⟩
    simp only [clockOf, shape, ofTwoDigits, digitValue, h, i, m, n, if_true,
      Option.bind_eq_bind, Option.bind_some, Option.pure_def]
    exact ⟨_, rfl⟩
  · cases pattern

theorem parseHHMM_of_clockOf {clock : ℤ × ℤ}
    (shown : clockOf value = some clock) :
    parseHHMM value =
      if 23 < clock.1 ∨ 59 < clock.2 then none
      else some (clock.1 * 60 + clock.2).toNat := by
  unfold clockOf at shown
  split at shown
  · rename_i shape
    simp only [Option.bind_eq_bind, Option.bind_eq_some_iff,
      Option.pure_def, Option.some.injEq] at shown
    rcases shown with ⟨hour, hourly, minute, minutely, rfl⟩
    simp only [parseHHMM, shape, hourly, minutely, Option.bind_eq_bind, Option.bind_some]
  · cases shown

theorem parseHHMM_of_matches (pattern : matchesHHMM value = true) :
    parseHHMM value =
      if OnClock value then some (minuteOf value) else none := by
  rcases clockOf_isSome pattern with ⟨clock, shown⟩
  have onClock : OnClock value ↔ ¬ (23 < clock.1 ∨ 59 < clock.2) := by
    simp only [OnClock, shown, Option.mem_some_iff, forall_eq']
    omega
  rw [parseHHMM_of_clockOf shown]
  by_cases off : 23 < clock.1 ∨ 59 < clock.2
  · rw [if_pos off, if_neg fun on => onClock.mp on off]
  · rw [if_neg off, if_pos (onClock.mpr off), minuteOf, shown]
    rfl

/-! ## What the engine offers -/

def noBound : DayKey → UniversalDay :=
  fun _ => { isOpen := true, windows := [] }

def weeklyWindows (hours : OperatingHours)
    (storedWeekly : DayKey → DayBookingConfig) (dayKey : DayKey) :
    List BookingWindow :=
  (weeklyFromOperatingHours (day hours) storedWeekly noBound dayKey).windows

def Offered (storedWeekly : DayKey → DayBookingConfig)
    (profile : Profile) : Prop :=
  ∀ hours, profile.operatingHours = some hours → ∀ dayKey entry,
    day hours dayKey = some entry → entry.isOpen = true →
      entry.is24Hours = false → ∀ slot ∈ entry.timeSlots,
        slotMinutes slot ⊆ covered (weeklyWindows hours storedWeekly dayKey)

/--
The slots with a time that no clock shows lie within the slots of the same day that a
clock can show, or have no minutes at all.
-/
def Redundant (hours : OperatingHours) : Prop :=
  ∀ dayKey entry, day hours dayKey = some entry → entry.isOpen = true →
    entry.is24Hours = false → ∀ slot ∈ entry.timeSlots,
      ¬ SlotOnClock slot → slotMinutes slot ⊆ clockMinutes entry

theorem mem_entries (found : day hours dayKey = some entry) :
    ⟨dayKey, entry⟩ ∈ hours.entries :=
  AList.mem_lookup_iff.mp found

theorem matches_of_wellFormed (valid : wellFormed hours = true)
    (found : day hours dayKey = some entry) {slot : TimeSlot}
    (member : slot ∈ entry.timeSlots) :
    matchesHHMM slot.open = true ∧ matchesHHMM slot.close = true := by
  have slots := List.all_eq_true.mp valid _ (mem_entries found)
  have both := List.all_eq_true.mp slots slot member
  simpa only [Bool.and_eq_true] using both

theorem parsed_slot {slot : TimeSlot}
    (opening : matchesHHMM slot.open = true)
    (closing : matchesHHMM slot.close = true) {window : MinuteWindow} :
    BookingWindow.parsed { start := slot.open, end_ := slot.close } =
        some window ↔
      SlotOnClock slot ∧
        { start := minuteOf slot.open, end_ := minuteOf slot.close } =
          window := by
  simp only [BookingWindow.parsed, parseHHMM_of_matches opening,
    parseHHMM_of_matches closing, SlotOnClock]
  by_cases opens : OnClock slot.open
  · by_cases closes : OnClock slot.close
    · simp [opens, closes]
    · simp [opens, closes]
  · simp [opens]

theorem covered_windows (pattern : ∀ slot ∈ entry.timeSlots,
      matchesHHMM slot.open = true ∧ matchesHHMM slot.close = true) :
    covered entry.windows = clockMinutes entry := by
  ext minute
  simp only [covered, minutesOf, OperatingHoursDay.windows, clockMinutes,
    List.mem_filterMap, List.mem_map, Set.mem_ofPred_eq]
  constructor
  · rintro ⟨window, ⟨_, ⟨slot, member, rfl⟩, read⟩, inside⟩
    have shown := (parsed_slot (pattern slot member).1 (pattern slot member).2).mp read
    cases shown.2
    exact ⟨slot, member, shown.1, inside⟩
  · rintro ⟨slot, member, shown, inside⟩
    exact ⟨_, ⟨_, ⟨slot, member, rfl⟩, (parsed_slot
      (pattern slot member).1 (pattern slot member).2).mpr ⟨shown, rfl⟩⟩, inside⟩

theorem covered_weeklyWindows (valid : wellFormed hours = true)
    (storedWeekly : DayKey → DayBookingConfig)
    (found : day hours dayKey = some entry) (slots : entry.is24Hours = false) :
    covered (weeklyWindows hours storedWeekly dayKey) =
      clockMinutes entry := by
  have windows : weeklyWindows hours storedWeekly dayKey = normalizeWindows entry.windows := by
    simp only [weeklyWindows, weeklyFromOperatingHours, found, noBound,
      boundedHours_eq, ownWindows, Option.map_some, Option.getD_some,
      slots, Bool.false_eq_true, Bool.true_eq_false, if_false, if_true]
  rw [windows, covered_normalizeWindows]
  exact covered_windows fun slot member =>
    matches_of_wellFormed valid found member

theorem updateProfile_of_checkHours (checked : checkHours hours = .ok ())
    (profile : Profile) :
    updateProfile (some profile) (.ok ()) (some (some hours)) =
      .ok { profile with operatingHours := some hours } := by
  change (checkHours hours >>= fun _ =>
    Except.ok { profile with operatingHours := some hours }) = _
  rw [checked]
  rfl

theorem stored_of_updateProfile {profile : Option Profile}
    {earlier : Except ServiceError Unit} {updated : Profile}
    (accepted : updateProfile profile earlier (some (some hours)) = .ok updated) :
    updated.operatingHours = some hours := by
  cases profile with
  | none => cases accepted
  | some profile =>
    cases earlier with
    | error refused => cases accepted
    | ok =>
      change (checkHours hours >>= fun _ =>
        Except.ok { profile with operatingHours := some hours }) = Except.ok updated at accepted
      cases checked : checkHours hours with
      | error refused =>
        rw [checked] at accepted
        cases accepted
      | ok =>
        rw [checked] at accepted
        cases accepted
        rfl

/--
The hours an edit stores are offered to the minute exactly when the slots that no clock
shows add nothing to the others of their day.
-/
theorem offered_iff {profile : Option Profile}
    {earlier : Except ServiceError Unit} {hours : OperatingHours}
    {updated : Profile} (valid : wellFormed hours = true)
    (accepted : updateProfile profile earlier (some (some hours)) =
      .ok updated) (storedWeekly : DayKey → DayBookingConfig) :
    Offered storedWeekly updated ↔ Redundant hours := by
  have stored := stored_of_updateProfile accepted
  constructor
  · intro offered dayKey entry found isOpen slots slot member _
    have within := offered hours stored dayKey entry found isOpen slots slot member
    rwa [covered_weeklyWindows valid storedWeekly found slots] at within
  · intro redundant others same dayKey entry found isOpen slots slot member
    cases stored.symm.trans same
    rw [covered_weeklyWindows valid storedWeekly found slots]
    by_cases shown : SlotOnClock slot
    · exact fun minute inside => ⟨slot, member, shown, inside⟩
    · exact redundant dayKey entry found isOpen slots slot member shown

namespace Sample

def everyDay (timeSlots : List TimeSlot) : OperatingHours :=
  ([DayKey.monday, .tuesday, .wednesday, .thursday, .friday, .saturday, .sunday].map fun dayKey =>
    ⟨dayKey, { isOpen := true, is24Hours := false, timeSlots }⟩).toAList

def untilMidnight : OperatingHours := everyDay [{ «open» := "18:00", close := "24:00" }]

def twiceWritten : OperatingHours :=
  everyDay [{ «open» := "08:00", close := "20:00" }, { «open» := "08:60", close := "09:30" }]

end Sample

/-- Hours until 24:00 are stored, and she is closed. -/
theorem offered_untilMidnight :
    wellFormed Sample.untilMidnight = true ∧
      updateProfile (some {}) (.ok ()) (some (some Sample.untilMidnight)) =
        .ok { operatingHours := some Sample.untilMidnight } ∧
      (∀ storedWeekly, (weeklyFromOperatingHours (day Sample.untilMidnight)
        storedWeekly noBound .monday).isAcceptingBookings = some false) ∧
      ∀ storedWeekly, ¬ Offered storedWeekly { operatingHours := some Sample.untilMidnight } := by
  refine ⟨by decide +kernel, updateProfile_of_checkHours (by decide +kernel) {}, ?_, ?_⟩
  · intro storedWeekly
    have shut : boundedHours (day Sample.untilMidnight .monday) (noBound .monday) = (true, []) := by
      decide +kernel
    simp only [weeklyFromOperatingHours, shut]
    rfl
  · intro storedWeekly offered
    have evening : (1080 : ℕ) ∈ covered (weeklyWindows Sample.untilMidnight
        storedWeekly .monday) :=
      offered _ rfl .monday
        { isOpen := true
          is24Hours := false
          timeSlots := [{ «open» := "18:00", close := "24:00" }] }
        (by decide) rfl rfl _ (.head _)
        (Set.mem_Ico.mpr (by decide +kernel))
    have none : weeklyWindows Sample.untilMidnight storedWeekly .monday = [] := by
      have shut : boundedHours (day Sample.untilMidnight .monday)
          (noBound .monday) = (true, []) := by
        decide +kernel
      simp only [weeklyWindows, weeklyFromOperatingHours, shut]
    rw [none] at evening
    simp [covered] at evening

/-- A slot that no clock shows is offered when the others cover it. -/
theorem offered_iff_twiceWritten :
    Offered (fun _ => {}) { operatingHours := some Sample.twiceWritten } := by
  refine (@offered_iff (some {}) (.ok ()) Sample.twiceWritten
    { operatingHours := some Sample.twiceWritten } (by decide +kernel)
    (updateProfile_of_checkHours (by decide +kernel) {})
    fun _ => {}).mpr ?_
  intro dayKey entry found isOpen slots slot member hidden minute inside
  have same : entry =
      { isOpen := true
        is24Hours := false
        timeSlots :=
          [{ «open» := "08:00", close := "20:00" }, { «open» := "08:60", close := "09:30" }] } := by
    cases dayKey <;> exact (Option.some.inj found).symm
  subst same
  have read := List.mem_pair.mp member
  refine ⟨_, .head _, ⟨by decide +kernel, by decide +kernel⟩, ?_⟩
  rcases read with rfl | rfl
  · exact inside
  · have early := Set.mem_Ico.mp inside
    have opening : minuteOf "08:60" = 540 := by decide +kernel
    have closing : minuteOf "09:30" = 570 := by decide +kernel
    have opens : minuteOf "08:00" = 480 := by decide +kernel
    have closes : minuteOf "20:00" = 1200 := by decide +kernel
    rw [opening, closing] at early
    refine Set.mem_Ico.mpr ?_
    rw [opens, closes]
    omega

end Lalaba.Washers.Hours
