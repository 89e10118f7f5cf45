import Lalaba.Bookings.Availability
import Mathlib.Order.Interval.Set.Basic

/-!
# The minutes of a day

A window is open from its start and closed again at its end, so a list of windows
says which minutes of a day are open.  Sorting and merging a list keeps its minutes
and leaves windows with a gap between each two; sweeping two such lists leaves the
minutes both have.  The hours a washer is booked by are therefore hours she keeps
and the platform keeps.
-/

namespace Lalaba.Bookings

theorem parseHHMM_lt {value : String} {minute : ℕ}
    (read : parseHHMM value = some minute) : minute < 1440 := by
  have clock : ∀ {hour rest : ℤ},
      (if 23 < hour ∨ 59 < rest then none
        else some (hour * 60 + rest).toNat) = some minute →
      minute < 1440 := by
    intro hour rest read
    split at read
    · cases read
    · cases read
      omega
  simp only [parseHHMM, Option.bind_eq_bind] at read
  split at read
  · simp only [Option.bind_eq_some_iff, Option.some.injEq] at read
    rcases read with ⟨hour, -, rest, -, _, rfl, read⟩
    exact clock read
  · simp only [Option.bind_eq_some_iff, Option.some.injEq] at read
    rcases read with ⟨hour, -, rest, -, _, rfl, read⟩
    exact clock read
  · cases read

theorem parseHHMM_formatHHMM {minute : ℕ} (ofDay : minute < 1440) :
    parseHHMM (formatHHMM minute) = some minute := by
  have whole : (minute % 1440 : ℕ) = minute := Nat.mod_eq_of_lt ofDay
  have hour := @ofTwoDigits_digit ((minute : ℤ) / 60) (by omega) (by omega)
  have rest := @ofTwoDigits_digit ((minute : ℤ) % 60) (by omega) (by omega)
  have clock : ¬ (23 < (minute : ℤ) / 60 ∨ 59 < (minute : ℤ) % 60) := by
    omega
  have total : ((minute : ℤ) / 60 * 60 + (minute : ℤ) % 60).toNat =
      minute := by
    omega
  simp only [parseHHMM, formatHHMM, whole, twoDigits,
    String.toList_ofList, List.cons_append, List.nil_append, hour, rest,
    Option.bind_eq_bind, Option.bind_some, clock, if_false, total]

/-! ## Windows in minutes -/

/-- A window that is open for a while on one day. -/
structure MinuteWindow.Daily (window : MinuteWindow) : Prop where
  opens : window.start < window.end_
  ofDay : window.end_ < 1440

def MinuteWindow.minutes (window : MinuteWindow) : Set ℕ := Set.Ico window.start window.end_

def minutesOf (windows : List MinuteWindow) : Set ℕ :=
  { minute | ∃ window ∈ windows, minute ∈ window.minutes }

/-- Windows of one day, sorted, with a gap between each two. -/
structure Separated (windows : List MinuteWindow) : Prop where
  daily : ∀ window ∈ windows, window.Daily
  apart : windows.Pairwise fun first second => first.end_ < second.start

def covered (windows : List BookingWindow) : Set ℕ :=
  minutesOf (windows.filterMap BookingWindow.parsed)

/-- Windows as they are offered: well formed, sorted and disjoint. -/
structure Neat (windows : List BookingWindow) : Prop where
  wellFormed : ∀ window ∈ windows, ∃ parsed, window.parsed = some parsed
  separated : Separated (windows.filterMap BookingWindow.parsed)

@[simp]
theorem minutesOf_nil : minutesOf [] = ∅ := by
  ext minute
  simp [minutesOf]

@[simp]
theorem minutesOf_cons (window : MinuteWindow)
    (windows : List MinuteWindow) :
    minutesOf (window :: windows) = window.minutes ∪ minutesOf windows := by
  ext minute
  simp [minutesOf]

@[simp]
theorem minutesOf_append (before after : List MinuteWindow) :
    minutesOf (before ++ after) = minutesOf before ∪ minutesOf after := by
  ext minute
  simp only [minutesOf, List.mem_append, Set.mem_ofPred_eq, Set.mem_union]
  constructor
  · rintro ⟨window, member | member, inside⟩
    · exact .inl ⟨window, member, inside⟩
    · exact .inr ⟨window, member, inside⟩
  · rintro (⟨window, member, inside⟩ | ⟨window, member, inside⟩)
    · exact ⟨window, .inl member, inside⟩
    · exact ⟨window, .inr member, inside⟩

theorem minutesOf_perm {windows windows' : List MinuteWindow}
    (same : windows.Perm windows') : minutesOf windows = minutesOf windows' := by
  ext minute
  simp only [minutesOf, Set.mem_ofPred_eq, same.mem_iff]

theorem minutesOf_filter (windows : List MinuteWindow) : minutesOf (windows.filter fun window =>
      decide (window.start < window.end_)) = minutesOf windows := by
  ext minute
  simp only [minutesOf, MinuteWindow.minutes, List.mem_filter,
    decide_eq_true_eq, Set.mem_ofPred_eq, Set.mem_Ico]
  constructor
  · rintro ⟨window, member, inside⟩
    exact ⟨window, member.1, inside⟩
  · rintro ⟨window, member, inside⟩
    exact ⟨window, ⟨member, by omega⟩, inside⟩

theorem MinuteWindow.Daily.parsed_formatted {window : MinuteWindow}
    (daily : window.Daily) : window.formatted.parsed = some window := by
  have start : window.start < 1440 := daily.opens.trans daily.ofDay
  simp only [MinuteWindow.formatted, BookingWindow.parsed,
    parseHHMM_formatHHMM start, parseHHMM_formatHHMM daily.ofDay]

theorem filterMap_formatted {windows : List MinuteWindow}
    (daily : ∀ window ∈ windows, window.Daily) :
    (windows.map MinuteWindow.formatted).filterMap BookingWindow.parsed =
      windows := by
  induction windows with
  | nil => rfl
  | cons window rest induction =>
    have first := daily window List.mem_cons_self
    rw [List.map_cons, List.filterMap_cons_some first.parsed_formatted, induction]
    exact fun other member => daily other (.tail _ member)

theorem Separated.neat {windows : List MinuteWindow}
    (separated : Separated windows) :
    Neat (windows.map MinuteWindow.formatted) where
  wellFormed := by
    intro window member
    rcases List.mem_map.mp member with ⟨formed, among, rfl⟩
    exact ⟨formed, (separated.daily formed among).parsed_formatted⟩
  separated := by
    rw [filterMap_formatted separated.daily]
    exact separated

theorem BookingWindow.lt_of_parsed {window : BookingWindow}
    {parsed : MinuteWindow} (read : window.parsed = some parsed) :
    parsed.end_ < 1440 := by
  unfold BookingWindow.parsed at read
  split at read
  · rename_i closing
    cases read
    exact parseHHMM_lt closing
  · cases read

/-! ## Merging -/

theorem mergeWindow_concat (before : List MinuteWindow)
    (last window : MinuteWindow) :
    mergeWindow (before ++ [last]) window =
      if window.start ≤ last.end_ then
        before ++ [{ last with end_ := max last.end_ window.end_ }]
      else
        before ++ [last, window] := by
  simp [mergeWindow]

section

variable {merged : List MinuteWindow} {window : MinuteWindow}

theorem start_le_of_mergeWindow
    (before : ∀ earlier ∈ merged, earlier.start ≤ window.start)
    {other : MinuteWindow} (member : other ∈ mergeWindow merged window) :
    other.start ≤ window.start := by
  rcases List.eq_nil_or_concat' merged with rfl | ⟨front, last, rfl⟩
  · rcases List.mem_singleton.mp member with rfl
    exact le_rfl
  · rw [mergeWindow_concat] at member
    split at member
    · rcases List.mem_append.mp member with member | member
      · exact before other (List.mem_append_left _ member)
      · rcases List.mem_singleton.mp member with rfl
        exact before last (List.mem_append_right _ (.head _))
    · simp only [List.mem_append, List.mem_cons, List.not_mem_nil, or_false] at member
      rcases member with member | rfl | rfl
      · exact before other (List.mem_append_left _ member)
      · exact before other (List.mem_append_right _ (.head _))
      · exact le_rfl

theorem minutesOf_mergeWindow
    (before : ∀ earlier ∈ merged, earlier.start ≤ window.start) :
    minutesOf (mergeWindow merged window) = minutesOf merged ∪ window.minutes := by
  rcases List.eq_nil_or_concat' merged with rfl | ⟨front, last, rfl⟩
  · simp [mergeWindow]
  · have starts := before last (List.mem_append_right _ (.head _))
    rw [mergeWindow_concat]
    split
    · have joined : Set.Ico last.start (max last.end_ window.end_) =
          last.minutes ∪ window.minutes := by
        ext minute
        simp only [MinuteWindow.minutes, Set.mem_Ico, Set.mem_union]
        omega
      simp only [minutesOf_append, minutesOf_cons, minutesOf_nil, Set.union_empty, Set.union_assoc]
      exact congrArg _ joined
    · simp only [minutesOf_append, minutesOf_cons, minutesOf_nil, Set.union_empty, Set.union_assoc]

/-- Merging keeps a gap between each two windows. -/
theorem Separated.mergeWindow (separated : Separated merged)
    (daily : window.Daily)
    (before : ∀ earlier ∈ merged, earlier.start ≤ window.start) :
    Separated (mergeWindow merged window) := by
  rcases List.eq_nil_or_concat' merged with rfl | ⟨front, last, rfl⟩
  · exact ⟨List.forall_mem_singleton.mpr daily, List.pairwise_singleton _ _⟩
  · have lastDaily := separated.daily last (List.mem_append_right _ (.head _))
    have fronts : ∀ earlier ∈ front, earlier.Daily := fun earlier member =>
      separated.daily earlier (List.mem_append_left _ member)
    rcases List.pairwise_append.mp separated.apart with ⟨apart, -, gap⟩
    have gap : ∀ earlier ∈ front, earlier.end_ < last.start :=
      fun earlier member => gap earlier member last (.head _)
    rw [mergeWindow_concat]
    split
    · refine ⟨?_, List.pairwise_append.mpr ⟨apart, List.pairwise_singleton _ _, ?_⟩⟩
      · intro other member
        rcases List.mem_append.mp member with member | member
        · exact fronts other member
        · rcases List.mem_singleton.mp member with rfl
          exact ⟨lt_max_of_lt_left lastDaily.opens, max_lt lastDaily.ofDay daily.ofDay⟩
      · intro earlier member other member'
        rcases List.mem_singleton.mp member' with rfl
        exact gap earlier member
    · rename_i later
      have next : last.end_ < window.start := not_le.mp later
      have opening := lastDaily.opens
      refine ⟨?_, List.pairwise_append.mpr ⟨apart, List.pairwise_pair.mpr next, ?_⟩⟩
      · intro other member
        simp only [List.mem_append, List.mem_cons, List.not_mem_nil, or_false] at member
        rcases member with member | rfl | rfl
        · exact fronts other member
        · exact lastDaily
        · exact daily
      · intro earlier member other member'
        have clear := gap earlier member
        simp only [List.mem_cons, List.not_mem_nil, or_false] at member'
        rcases member' with rfl | rfl
        · exact clear
        · omega

end

theorem Separated.foldl {windows : List MinuteWindow}
    (daily : ∀ window ∈ windows, window.Daily)
    (sorted : windows.Pairwise fun first second =>
      first.start ≤ second.start) {merged : List MinuteWindow}
    (separated : Separated merged)
    (before : ∀ earlier ∈ merged, ∀ window ∈ windows, earlier.start ≤ window.start) :
    Separated (windows.foldl Bookings.mergeWindow merged) ∧
      minutesOf (windows.foldl Bookings.mergeWindow merged) =
        minutesOf merged ∪ minutesOf windows := by
  induction windows generalizing merged with
  | nil => exact ⟨separated, by simp⟩
  | cons window rest induction =>
    rcases List.pairwise_cons.mp sorted with ⟨first, sorted⟩
    have starts : ∀ earlier ∈ merged, earlier.start ≤ window.start :=
      fun earlier member => before earlier member window (.head _)
    have rests := induction
      (fun other member => daily other (.tail _ member)) sorted
      (separated.mergeWindow (daily window (.head _)) starts)
      fun earlier member other later =>
        (start_le_of_mergeWindow starts member).trans (first other later)
    rw [List.foldl_cons, rests.2, minutesOf_mergeWindow starts, minutesOf_cons, Set.union_assoc]
    exact ⟨rests.1, rfl⟩

def normalized (windows : List BookingWindow) : List MinuteWindow :=
  (((windows.filterMap BookingWindow.parsed).filter fun window =>
    decide (window.start < window.end_)).insertionSort
      fun first second => first.start ≤ second.start).foldl mergeWindow []

theorem normalizeWindows_eq (windows : List BookingWindow) :
    normalizeWindows windows = (normalized windows).map MinuteWindow.formatted :=
  rfl

theorem normalized_spec (windows : List BookingWindow) :
    Separated (normalized windows) ∧ minutesOf (normalized windows) = covered windows := by
  have sorting := List.perm_insertionSort
    (fun first second : MinuteWindow => first.start ≤ second.start)
    ((windows.filterMap BookingWindow.parsed).filter fun window =>
      decide (window.start < window.end_))
  have sorted := List.pairwise_insertionSort
    (fun first second : MinuteWindow => first.start ≤ second.start)
    ((windows.filterMap BookingWindow.parsed).filter fun window =>
      decide (window.start < window.end_))
  have merged := @Separated.foldl _ (by
      intro window member
      rcases List.mem_filter.mp (sorting.mem_iff.mp member) with ⟨member, opens⟩
      rcases List.mem_filterMap.mp member with ⟨configured, -, read⟩
      exact ⟨of_decide_eq_true opens, BookingWindow.lt_of_parsed read⟩)
    sorted [] ⟨by simp, .nil⟩ (by simp)
  refine ⟨merged.1, merged.2.trans ?_⟩
  rw [minutesOf_nil, Set.empty_union, minutesOf_perm sorting, minutesOf_filter]
  rfl

theorem normalized_separated (windows : List BookingWindow) :
    Separated (normalized windows) :=
  (normalized_spec windows).1

@[simp]
theorem filterMap_normalizeWindows (windows : List BookingWindow) :
    (normalizeWindows windows).filterMap BookingWindow.parsed =
      normalized windows :=
  filterMap_formatted (normalized_separated windows).daily

@[simp]
theorem covered_normalizeWindows (windows : List BookingWindow) :
    covered (normalizeWindows windows) = covered windows := by
  rw [covered, filterMap_normalizeWindows, (normalized_spec windows).2]

/-! ## Sweeping -/

@[elab_as_elim]
theorem sweep_induction
    {motive : List MinuteWindow → List MinuteWindow → Prop}
    (noneLeft : ∀ rights, motive [] rights)
    (noneRight : ∀ lefts, motive lefts [])
    (passLeft : ∀ left lefts right rights, left.end_ < right.end_ →
      motive lefts (right :: rights) → motive (left :: lefts) (right :: rights))
    (passRight : ∀ left lefts right rights, ¬ left.end_ < right.end_ →
      motive (left :: lefts) rights → motive (left :: lefts) (right :: rights))
    (lefts rights : List MinuteWindow) : motive lefts rights := by
  induction lefts generalizing rights with
  | nil => exact noneLeft rights
  | cons left lefts outer =>
    induction rights with
    | nil => exact noneRight _
    | cons right rights inner =>
      by_cases closes : left.end_ < right.end_
      · exact passLeft _ _ _ _ closes (outer _)
      · exact passRight _ _ _ _ closes inner

def MinuteWindow.overlap (left right : MinuteWindow) : List MinuteWindow :=
  let start := max left.start right.start
  let end_ := min left.end_ right.end_
  if start < end_ then [{ start, end_ }] else []

@[simp]
theorem overlaps_nil_left (rights : List MinuteWindow) : overlaps [] rights = [] := by
  simp only [overlaps]

@[simp]
theorem overlaps_nil_right (lefts : List MinuteWindow) : overlaps lefts [] = [] := by
  cases lefts <;> simp only [overlaps]

theorem overlaps_cons (left right : MinuteWindow)
    (lefts rights : List MinuteWindow) :
    overlaps (left :: lefts) (right :: rights) =
      left.overlap right ++
        if left.end_ < right.end_ then overlaps lefts (right :: rights)
        else overlaps (left :: lefts) rights := by
  rw [overlaps]
  dsimp only [MinuteWindow.overlap]
  split <;> rfl

theorem mem_overlap {left right window : MinuteWindow} :
    window ∈ left.overlap right ↔
      window.start = max left.start right.start ∧
        window.end_ = min left.end_ right.end_ ∧ window.start < window.end_ := by
  dsimp only [MinuteWindow.overlap]
  split
  · rename_i opens
    rw [List.mem_singleton]
    constructor
    · rintro rfl
      exact ⟨rfl, rfl, opens⟩
    · rintro ⟨start, end_, -⟩
      cases window
      cases start
      cases end_
      rfl
  · rename_i shut
    constructor
    · intro member
      cases member
    · rintro ⟨start, end_, opens⟩
      rw [start, end_] at opens
      exact (shut opens).elim

theorem pairwise_overlap (left right : MinuteWindow)
    {relation : MinuteWindow → MinuteWindow → Prop} :
    (left.overlap right).Pairwise relation := by
  dsimp only [MinuteWindow.overlap]
  split
  · exact List.pairwise_singleton _ _
  · exact .nil

theorem minutesOf_overlap (left right : MinuteWindow) :
    minutesOf (left.overlap right) = left.minutes ∩ right.minutes := by
  dsimp only [MinuteWindow.overlap]
  ext minute
  split
  · simp only [minutesOf_cons, minutesOf_nil, Set.union_empty,
      MinuteWindow.minutes, Set.mem_Ico, Set.mem_inter_iff]
    omega
  · simp only [minutesOf_nil, Set.mem_empty_iff_false, false_iff,
      MinuteWindow.minutes, Set.mem_Ico, Set.mem_inter_iff]
    omega

theorem mem_overlaps {lefts rights : List MinuteWindow}
    {window : MinuteWindow} (member : window ∈ overlaps lefts rights) :
    ∃ left ∈ lefts, ∃ right ∈ rights, window ∈ left.overlap right := by
  induction lefts, rights using sweep_induction with
  | noneLeft rights =>
    rw [overlaps_nil_left] at member
    cases member
  | noneRight lefts =>
    rw [overlaps_nil_right] at member
    cases member
  | passLeft left lefts right rights closes induction =>
    rw [overlaps_cons, if_pos closes, List.mem_append] at member
    rcases member with here | later
    · exact ⟨left, .head _, right, .head _, here⟩
    · rcases induction later with ⟨left', among, rest⟩
      exact ⟨left', .tail _ among, rest⟩
  | passRight left lefts right rights closes induction =>
    rw [overlaps_cons, if_neg closes, List.mem_append] at member
    rcases member with here | later
    · exact ⟨left, .head _, right, .head _, here⟩
    · rcases induction later with ⟨left', among, right', among', rest⟩
      exact ⟨left', among, right', .tail _ among', rest⟩

theorem Separated.tail {window : MinuteWindow}
    {windows : List MinuteWindow} (separated : Separated (window :: windows)) :
    Separated windows :=
  ⟨fun other member => separated.daily other (.tail _ member), separated.apart.of_cons⟩

theorem Separated.gap {window : MinuteWindow} {windows : List MinuteWindow}
    (separated : Separated (window :: windows)) {minute : ℕ}
    (inside : minute ∈ minutesOf windows) : window.end_ < minute := by
  rcases inside with ⟨other, member, inside⟩
  have apart := (List.pairwise_cons.mp separated.apart).1 other member
  exact apart.trans_le inside.1

theorem minutesOf_overlaps {lefts rights : List MinuteWindow}
    (separated : Separated lefts) (separated' : Separated rights) :
    minutesOf (overlaps lefts rights) = minutesOf lefts ∩ minutesOf rights := by
  induction lefts, rights using sweep_induction with
  | noneLeft | noneRight => simp
  | passLeft left lefts right rights closes induction =>
    -- The window that is passed does not reach the rest of the other list.
    have clear : left.minutes ∩ minutesOf rights = ∅ := by
      ext minute
      simp only [Set.mem_inter_iff, Set.mem_empty_iff_false, iff_false]
      rintro ⟨inside, later⟩
      have gap := separated'.gap later
      have within := inside.2
      omega
    rw [overlaps_cons, if_pos closes, minutesOf_append,
      minutesOf_overlap, induction separated.tail separated',
      minutesOf_cons, minutesOf_cons, Set.union_inter_distrib_right,
      Set.inter_union_distrib_left left.minutes, clear, Set.union_empty]
  | passRight left lefts right rights closes induction =>
    have clear : minutesOf lefts ∩ right.minutes = ∅ := by
      ext minute
      simp only [Set.mem_inter_iff, Set.mem_empty_iff_false, iff_false]
      rintro ⟨later, inside⟩
      have gap := separated.gap later
      have within := inside.2
      omega
    rw [overlaps_cons, if_neg closes, minutesOf_append,
      minutesOf_overlap, induction separated separated'.tail,
      minutesOf_cons, minutesOf_cons, Set.inter_union_distrib_left,
      Set.union_inter_distrib_right _ _ right.minutes, clear, Set.union_empty]

theorem Separated.overlaps {lefts rights : List MinuteWindow}
    (separated : Separated lefts) (separated' : Separated rights) :
    Separated (overlaps lefts rights) := by
  constructor
  · intro window member
    rcases mem_overlaps member with ⟨left, among, right, -, overlap⟩
    rcases mem_overlap.mp overlap with ⟨-, closing, opens⟩
    have ofDay := (separated.daily left among).ofDay
    exact ⟨opens, closing ▸ (min_le_left _ _).trans_lt ofDay⟩
  · induction lefts, rights using sweep_induction with
    | noneLeft | noneRight => simp
    | passLeft left lefts right rights closes induction =>
      have first := (List.pairwise_cons.mp separated.apart).1
      rw [overlaps_cons, if_pos closes]
      refine List.pairwise_append.mpr
        ⟨pairwise_overlap _ _, induction separated.tail separated', ?_⟩
      intro window here later member
      rcases mem_overlap.mp here with ⟨-, closing, -⟩
      rcases mem_overlaps member with ⟨left', among, right', -, overlap⟩
      have opening := (mem_overlap.mp overlap).1
      have apart := first left' among
      omega
    | passRight left lefts right rights closes induction =>
      have first := (List.pairwise_cons.mp separated'.apart).1
      rw [overlaps_cons, if_neg closes]
      refine List.pairwise_append.mpr
        ⟨pairwise_overlap _ _, induction separated separated'.tail, ?_⟩
      intro window here later member
      rcases mem_overlap.mp here with ⟨-, closing, -⟩
      rcases mem_overlaps member with ⟨left', -, right', among, overlap⟩
      have opening := (mem_overlap.mp overlap).1
      have apart := first right' among
      omega

theorem intersectWindows_eq (first second : List BookingWindow) :
    intersectWindows first second =
      (overlaps (normalized first) (normalized second)).map
        MinuteWindow.formatted := by
  rw [intersectWindows, filterMap_normalizeWindows, filterMap_normalizeWindows]

theorem overlaps_separated (first second : List BookingWindow) :
    Separated (overlaps (normalized first) (normalized second)) :=
  (normalized_separated first).overlaps (normalized_separated second)

theorem covered_intersectWindows (first second : List BookingWindow) :
    covered (intersectWindows first second) = covered first ∩ covered second := by
  rw [intersectWindows_eq, covered,
    filterMap_formatted (overlaps_separated first second).daily,
    minutesOf_overlaps (normalized_separated first) (normalized_separated second),
    (normalized_spec first).2, (normalized_spec second).2]

theorem neat_intersectWindows (first second : List BookingWindow) :
    Neat (intersectWindows first second) := by
  rw [intersectWindows_eq]
  exact (overlaps_separated first second).neat

/-! ## The hours of a washer -/

def OperatingHoursDay.windows (day : OperatingHoursDay) :
    List BookingWindow :=
  day.timeSlots.map fun slot => { start := slot.open, end_ := slot.close }

def ownMinutes : Option OperatingHoursDay → Set ℕ
  | none => ∅
  | some day =>
    if day.isOpen then
      if day.is24Hours then Set.univ else covered day.windows
    else
      ∅

def ownWindows (day : Option OperatingHoursDay) : List BookingWindow :=
  if (day.map OperatingHoursDay.is24Hours).getD false then
    [{ start := "00:00", end_ := "23:59" }]
  else
    normalizeWindows ((day.map OperatingHoursDay.windows).getD [])

theorem boundedHours_eq (day : Option OperatingHoursDay)
    (bound : UniversalDay) :
    boundedHours day bound =
      let isOpen := (day.map OperatingHoursDay.isOpen).getD false
      if bound.isOpen = false then
        (false, [])
      else if bound.windows = [] then
        (isOpen, ownWindows day)
      else
        let within := intersectWindows (ownWindows day) bound.windows
        (isOpen && within != [], within) := by
  cases day <;> rfl

theorem covered_ownWindows {day : Option OperatingHoursDay}
    (isOpen : (day.map OperatingHoursDay.isOpen).getD false = true) :
    covered (ownWindows day) ⊆ ownMinutes day := by
  cases day with
  | none => cases isOpen
  | some day =>
    change day.isOpen = true at isOpen
    simp only [ownWindows, Option.map_some, Option.getD_some, ownMinutes, isOpen, if_true]
    cases day.is24Hours with
    | true => exact Set.subset_univ _
    | false => exact (covered_normalizeWindows _).subset

theorem boundedHours_within {day : Option OperatingHoursDay}
    {bound : UniversalDay}
    (published : bound.isOpen = true → bound.windows ≠ [])
    (accepts : (boundedHours day bound).1 = true) :
    covered (boundedHours day bound).2 ⊆ covered bound.windows ∩ ownMinutes day := by
  rw [boundedHours_eq] at accepts ⊢
  cases shut : bound.isOpen with
  | false => simp [shut] at accepts
  | true =>
    simp only [shut, published shut, if_false, Bool.true_eq_false, Bool.and_eq_true] at accepts ⊢
    rw [covered_intersectWindows, Set.inter_comm]
    exact Set.inter_subset_inter_right _ (covered_ownWindows accepts.1)

/--
Nobody is promised hours that the platform or the washer does not keep, and the
intersection of two lists of windows is the intersection of their minutes.
-/
theorem covered_effectiveDay_subset
    {hours : DayKey → Option OperatingHoursDay}
    {storedWeekly : DayKey → DayBookingConfig}
    {universal : DayKey → UniversalDay}
    (published : ∀ dayKey, (universal dayKey).isOpen = true → (universal dayKey).windows ≠ [])
    {config : BookingAvailabilityConfig}
    (projected : config.weekly = weeklyFromOperatingHours hours storedWeekly universal)
    (dayKey : DayKey) (entitlement : EffectiveEntitlement)
    (accepts : (effectiveDay config dayKey entitlement none).isAcceptingBookings = true) :
    covered (effectiveDay config dayKey entitlement none).windows ⊆
        covered (universal dayKey).windows ∩ ownMinutes (hours dayKey) ∧
      ∀ first second,
        covered (intersectWindows first second) =
            covered first ∩ covered second ∧
          Neat (intersectWindows first second) := by
  refine ⟨?_, fun first second => ⟨covered_intersectWindows first second,
    neat_intersectWindows first second⟩⟩
  simp only [effectiveDay, projected, weeklyFromOperatingHours,
    Option.map_none, Option.getD_none, Option.getD_some, Bool.false_eq_true,
    if_false, if_true, Bool.and_eq_true, bne_iff_ne] at accepts ⊢
  rw [if_neg accepts.2, covered_normalizeWindows]
  exact boundedHours_within (published dayKey) accepts.1

namespace Sample

def twoSlots : OperatingHoursDay where
  isOpen := true
  is24Hours := false
  timeSlots := [{ «open» := "11:00", close := "15:30" }, { «open» := "05:00", close := "12:00" }]

def twoSlotsConfig : BookingAvailabilityConfig where
  branchId := "branch-1"
  providerType := .washer
  weekly := weeklyFromOperatingHours (fun _ => some twoSlots)
    (fun _ => {}) BookingPolicy.seed.universalDays

def entitled : EffectiveEntitlement :=
  resolveEntitlement none [] [] NEW_PROVIDER_STATS .washer "2026-03-02"

end Sample

/-- A washer of two slots is booked within them, and not before six. -/
theorem covered_effectiveDay_subset_twoSlots :
    (effectiveDay Sample.twoSlotsConfig .monday Sample.entitled
        none).windows = [{ start := "06:00", end_ := "15:30" }] ∧
      covered (effectiveDay Sample.twoSlotsConfig .monday Sample.entitled
          none).windows ⊆
        covered (BookingPolicy.seed.universalDays .monday).windows ∩
          ownMinutes (some Sample.twoSlots) :=
  ⟨by decide +kernel,
    (@covered_effectiveDay_subset (fun _ => some Sample.twoSlots)
      (fun _ => {}) BookingPolicy.seed.universalDays
      (fun _ _ => List.cons_ne_nil _ _) Sample.twoSlotsConfig rfl .monday
      Sample.entitled (by decide +kernel)).1⟩

end Lalaba.Bookings
