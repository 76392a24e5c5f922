import CalendarSeries.Proofs.Bucket.Months
import CalendarSeries.Proofs.CommandLine.Fetching
import CalendarSeries.Proofs.Query.Windows
/-!
Ranges of local days and months, as dates for bounds and as the shortcuts of the command line. A
date as a bound is read in its zone, a shortcut goes along the zone's timetable. So the two ask for
the same range where the clocks show neither of its midnights twice, and buckets of months start
where their first days begin.
-/
namespace CalendarSeries

open CommandLine (Selection)
open Bucket (ok_of_toOption)

variable {context : Context} {name : String} {zone : Zone} {date next : Date}

theorem Date.text_ne {date : Date} (valid : date.isValid = true) {word : String}
    (short : word.length < 10) : date.text ≠ word := by
  rintro rfl
  rw [Date.text, String.length_ofList, Date.length_dateText valid] at short
  omega

/-- Points in time read under a name are read in its zone. -/
theorem Instant.named_place (found : Instant.exactZone name = .ok zone) :
    (Assumed.named name).place = .ok (.zone zone) := by
  rw [Assumed.place, found]
  rfl

/-- A date as a bound is the instant at which it begins by its zone. -/
theorem Bound.ofValue_date (found : Instant.exactZone name = .ok zone)
    (valid : date.isValid = true) (default : Bound) :
    Bound.ofValue (.named name) default (.text date.text) = .ok (.instant (zone.begins date)) := by
  have instant := Instant.ofValue_date (Instant.named_place found) valid
  unfold Bound.ofValue
  split
  · rename_i none
    cases none
  · rename_i open_
    exact absurd (Value.text.inj open_) (Date.text_ne valid (by decide))
  · rename_i open_
    exact absurd (Value.text.inj open_) (Date.text_ne valid (by decide))
  · rw [instant]
    rfl

namespace Builder

/-- A builder whose bounds can be read starts with them. -/
theorem start_eq {key first last : Value} {timezone : Option String} {start stop : Bound}
    (inForce : RangeRequest.zoneOr context.zone timezone = name)
    (starts : Bound.ofValue (.named name) .oldest first = .ok start)
    (stops : Bound.ofValue (.named name) .newest last = .ok stop) :
    Builder.start context key first last timezone =
      .ok ⟨⟨first, last, none, none, none⟩, { key, start, stop, timezone }⟩ := by
  simp only [Builder.start, resolved, Builder.zone, inForce, starts, stops, readIf, bind,
    Except.bind, Except.map]

end Builder

namespace CommandLine.Selection

theorem requested_eq {selection : Selection} {key : String} {first last : Value}
    {start stop : Bound} (found : Instant.exactZone name = .ok zone)
    (inForce : RangeRequest.zoneOr context.zone selection.zone = name)
    (bounded : selection.bounds name = .ok (first, last))
    (starts : Bound.ofValue (.named name) .oldest first = .ok start)
    (stops : Bound.ofValue (.named name) .newest last = .ok stop) :
    selection.requested context key =
      .ok { key := .text key, start, stop, timezone := selection.zone } := by
  have known : selection.zoneIn context = .ok name := by
    simp only [zoneIn, inForce, Zone.timetable_of_exactZone found]
  rw [requested_along known bounded, Builder.start_eq inForce starts stops]
  rfl

/-- A range from one date to another. -/
def fromTo (selection : Selection) (date next : Date) : Selection :=
  { selection with day := none, month := none, start := some date.text, stop := some next.text }

theorem readBound_date (date : Date) :
    readBound (some date.text) = .ok (.text date.text) := by
  have hyphen : '-' ∈ Iso.dateText date := by simp [Iso.dateText]
  have words : date.text.toList.all Text.isDigit = false := by
    rw [Date.text, String.toList_ofList, List.all_eq_false]
    exact ⟨'-', hyphen, by decide⟩
  simp only [readBound, words, Bool.and_false, Bool.false_eq_true, if_false]

theorem bounds_fromTo (selection : Selection) (date next : Date) :
    (selection.fromTo date next).bounds name = .ok (.text date.text, .text next.text) := by
  simp only [bounds, fromTo, given?, Option.filter_none, readBound_date, bind, Except.bind]

theorem given?_text (valid : date.isValid = true) :
    given? (some date.text) = some date.text := by
  simp [given?, Date.text_ne valid (show "".length < 10 by decide)]

theorem bounds_day (selection : Selection) (valid : date.isValid = true) :
    Selection.bounds name { selection with day := some date.text } =
      (Bucket.dayBounds name date).map boundsOf := by
  have read : readDate "%Y-%m-%d" date.text Pattern.day = .ok date := by
    rw [readDate, Date.text, String.toList_ofList, Date.day_dateText valid]
    rfl
  simp only [bounds, given?_text valid, read, bind, Except.bind]

/-- The text of the month of a date. -/
def monthOf (date : Date) : String :=
  String.ofList date.monthText

theorem bounds_month (selection : Selection) (valid : { date with day := 1 }.isValid = true) :
    Selection.bounds name { selection with day := none, month := some (monthOf date) } =
      (Bucket.monthBounds name date).map boundsOf := by
  have text : monthOf date = String.ofList (Date.monthText { date with day := 1 }) := rfl
  have read : readDate "%Y-%m" (monthOf date) Pattern.month = .ok { date with day := 1 } := by
    rw [readDate, text, String.toList_ofList, Date.month_monthText valid]
    rfl
  have some : given? (some (monthOf date)) = some (monthOf date) := by
    simp [given?, monthOf, Date.monthText]
  have none : given? Option.none = Option.none := rfl
  simp only [bounds, some, none, read, bind, Except.bind]
  rfl

/-- A shortcut for a local day or month asks for the range between its dates unless the clocks show
one of their midnights twice. -/
theorem askAlikeIff_once {shortcut selection : Selection}
    (found : Instant.exactZone name = .ok zone)
    (settles : zone.Settles date) (following : zone.Settles next)
    (alike : shortcut.unbounded = selection.unbounded)
    (inForce : RangeRequest.zoneOr context.zone selection.zone = name)
    (bounded : shortcut.bounds name = .ok (boundsOf
      ⟨(Timetable.ofZone zone).begins date, (Timetable.ofZone zone).begins next⟩)) :
    AskAlikeIff context shortcut (selection.fromTo date next)
      (¬zone.ShowsTwice (Wall.midnight date) ∧ ¬zone.ShowsTwice (Wall.midnight next)) := by
  have charted := Zone.known_isCharted (Zone.exactZone_known found).1
  have first := (settles.begins_le charted).2
  have last := (following.begins_le charted).2
  have sameZone := zone_eq alike
  refine askAlikeIff alike fun key => ⟨_, _,
    requested_eq found (by rw [sameZone, inForce]) bounded rfl rfl,
    requested_eq found inForce (bounds_fromTo selection date next)
      (Bound.ofValue_date found settles.valid _) (Bound.ofValue_date found following.valid _), ?_⟩
  rw [← first, ← last]
  simp only [RangeRequest.mk.injEq, Bound.instant.injEq, sameZone, fromTo, true_and, and_true]
  constructor
  · rintro ⟨same, sameNext⟩
    exact ⟨same.symm, sameNext.symm⟩
  · rintro ⟨same, sameNext⟩
    exact ⟨same.symm, sameNext.symm⟩

end CommandLine.Selection

namespace QueryPlan

/-- Planning months from the first of a month to that of a later one. -/
theorem months_planned {timezone : Option String} {aggregation : Value} {statistic : Statistic}
    (key : Value) (found : Instant.exactZone name = .ok zone)
    (inForce : RangeRequest.zoneOr context.zone timezone = name)
    (read : Aggregation.statisticOf aggregation = .ok statistic)
    (first : date.day = 1) (late : Wall.inRange (zone.begins date * 1000) = true) (last : Nat)
    (settles : ∀ k ≤ last + 1, zone.Settles (date.laterMonth k)) :
    ∃ builder planned plan,
      Builder.start context key (.text date.text) (.text (date.laterMonth (last + 1)).text)
        timezone = .ok builder ∧
      builder.step context (.aggregation aggregation (.text "month")) = (planned, none) ∧
      make context.chunkSize context.zone planned.request = .ok plan ∧
      plan.buckets.map Bucket.start =
        (List.range (last + 1)).map (Bucket.monthStart zone date) := by
  obtain ⟨order, buckets, cut, starts⟩ := Bucket.cut_months name
    (Zone.known_isCharted (Zone.exactZone_known found).1) first late last settles
  have unit : Builder.readAggregation aggregation (.text "month") =
      .ok (some ⟨statistic, .calendar .month⟩) := by
    have month : Aggregation.lengthOf (.text "month") = .ok (.calendar .month) := by rfl
    simp only [Builder.readAggregation, Aggregation.ofValue, Value.items?, Aggregation.make, read,
      month, bind, Except.bind, Except.map]
  have starting : buckets.head?.map Bucket.start = some (zone.begins date) := by
    rw [← List.head?_map, starts, List.range_succ_eq_map]
    rfl
  let request : RangeRequest :=
    { key, start := .instant (zone.begins date),
      stop := .instant (zone.begins (date.laterMonth (last + 1))), timezone,
      aggregation := some ⟨statistic, .calendar .month⟩ }
  refine ⟨_, ⟨⟨.text date.text, .text (date.laterMonth (last + 1)).text, none, none, none⟩,
    request⟩, calendarPlan context.chunkSize request statistic buckets, Builder.start_eq inForce
    (Bound.ofValue_date found (settles 0 (Nat.zero_le _)).valid _)
    (Bound.ofValue_date found (settles (last + 1) (Nat.le_refl _)).valid _), ?_, ?_, starts⟩
  · simp only [Builder.step, Builder.replace, unit, Except.map]
    rfl
  · refine make_eq context.chunkSize rfl rfl rfl (by simp [request]) (.inl rfl) order ?_ starting
    rw [inForce, Bucket.calendar_eq_cut (Zone.timetable_of_exactZone found) order, cut]

end QueryPlan

namespace Zone

/-- What a bound and the start of a bucket have to do with one another: the bound is not later, and
it is the start exactly unless the midnight is shown twice. -/
def Meets (zone : Zone) (date : Date) (bound start : Int) : Prop :=
  bound ≤ start ∧ (bound = start ↔ ¬zone.ShowsTwice (Wall.midnight date))

/-- Whether buckets are the months from a first one to a last: the first starts at the bound that
its date is, the others are met by theirs. -/
def HasMonths (zone : Zone) (assumed : Instant.Assumed) (date : Date) (last : Nat)
    (buckets : List Bucket) : Prop :=
  buckets.length = last + 1 ∧ ∀ k ≤ last, ∃ bound bucket,
    Instant.ofValue assumed (.text (date.laterMonth k).text) = .ok bound ∧
    buckets[k]? = some bucket ∧
    if k = 0 then bound = bucket.start else zone.Meets (date.laterMonth k) bound bucket.start

theorem hasMonths {assumed : Instant.Assumed} {last : Nat} {buckets : List Bucket}
    (charted : zone.IsCharted) (place : assumed.place = .ok (.zone zone))
    (settles : ∀ k ≤ last + 1, zone.Settles (date.laterMonth k))
    (starts : buckets.map Bucket.start =
      (List.range (last + 1)).map (Bucket.monthStart zone date)) :
    zone.HasMonths assumed date last buckets := by
  have count : buckets.length = last + 1 := by
    rw [← List.length_map Bucket.start, starts, List.length_map, List.length_range]
  refine ⟨count, fun k bound => ?_⟩
  have present : k < buckets.length := by omega
  refine ⟨_, buckets[k], Instant.ofValue_date place (settles k (by omega)).valid,
    List.getElem?_eq_getElem present, ?_⟩
  have start : buckets[k].start = Bucket.monthStart zone date k := by
    have same : (buckets.map Bucket.start)[k]? =
        ((List.range (last + 1)).map (Bucket.monthStart zone date))[k]? := by rw [starts]
    simpa [present, show k < last + 1 by omega] using same
  rw [start]
  cases k with
  | zero => exact rfl
  | succ k => exact (settles (k + 1) (by omega)).begins_le charted

end Zone

/-- How the dates of a zone as bounds go with the days, months and buckets of its timetable. -/
structure LocalDates (zone : Zone) : Prop where
  /-- All dates from 1901 to 2037 with offsets in whole minutes around midnight are settled. -/
  whole : ∀ date : Date, date.isValid = true → Date.toDays ⟨1901, 12, 15⟩ ≤ date.toDays →
    date.toDays ≤ Date.toDays ⟨2037, 12, 30⟩ →
    (∀ instant : Int, Wall.midnight date - Micros.perDay ≤ instant →
      instant ≤ Wall.midnight date + Micros.perDay →
      zone.offsetAt instant % Micros.perMinute = 0) → zone.Settles date
  /-- A settled date as a bound meets the start of its local day. -/
  day : ∀ date next : Date, zone.Settles date → zone.Settles next →
    next.toDays = date.toDays + 1 →
    ∃ bound day, Instant.ofValue (.zone zone) (.text date.text) = .ok bound ∧
      Bucket.dayBoundsIn (.ofZone zone) date = .ok day ∧ zone.Meets date bound day.start
  /-- The first of a month as a bound meets the start of that month. -/
  month : ∀ date : Date, zone.Settles { date with day := 1 } → zone.Settles date.nextMonth →
    ∃ bound month, Instant.ofValue (.zone zone) (.text (Date.text { date with day := 1 })) =
        .ok bound ∧
      Bucket.monthBoundsIn (.ofZone zone) date = .ok month ∧
      zone.Meets { date with day := 1 } bound month.start
  /-- A range between first days of months is cut into those months. -/
  months : ∀ (name : String) (date : Date) (last : Nat),
    date.day = 1 → Wall.inRange (zone.begins date * 1000) = true →
    (∀ k ≤ last + 1, zone.Settles (date.laterMonth k)) →
    ∃ start stop buckets, Instant.ofValue (.zone zone) (.text date.text) = .ok start ∧
      Instant.ofValue (.zone zone) (.text (date.laterMonth (last + 1)).text) = .ok stop ∧
      Bucket.cut (Bucket.unitStep .month name (.ofZone zone)) start stop = .ok buckets ∧
      zone.HasMonths (.zone zone) date last buckets

theorem LocalDates.of_isCharted (charted : zone.IsCharted) : LocalDates zone where
  whole date valid late early := Zone.settles_whole charted valid late early
  day date next settles following consecutive :=
    ⟨_, _, Instant.ofValue_date rfl settles.valid,
      Bucket.dayBoundsIn_eq charted settles following consecutive, settles.begins_le charted⟩
  month date settles following :=
    ⟨_, _, Instant.ofValue_date rfl settles.valid,
      Bucket.monthBoundsIn_eq charted settles following, settles.begins_le charted⟩
  months name date last first late settles := by
    obtain ⟨-, buckets, cut, starts⟩ := Bucket.cut_months name charted first late last settles
    exact ⟨_, _, buckets, Instant.ofValue_date rfl (settles 0 (Nat.zero_le _)).valid,
      Instant.ofValue_date rfl (settles (last + 1) (Nat.le_refl _)).valid, cut,
      Zone.hasMonths charted rfl settles starts⟩

/-- How the dates of the zone of a name as bounds go with its local days, months and buckets. -/
structure LocalRanges (name : String) (zone : Zone) : Prop where
  /-- The zone's timetable is found under the same name. -/
  timetable : Bucket.timetable name = .ok (.ofZone zone)
  /-- All dates from 1972 to 2037 are settled. -/
  recent : ∀ date : Date, date.isValid = true → Date.toDays ⟨1972, 1, 9⟩ ≤ date.toDays →
    date.toDays ≤ Date.toDays ⟨2037, 12, 30⟩ → zone.Settles date
  /-- A settled date as a bound meets the start of its local day. -/
  day : ∀ date next : Date, zone.Settles date → zone.Settles next →
    next.toDays = date.toDays + 1 →
    ∃ bound day, Instant.ofValue (.named name) (.text date.text) = .ok bound ∧
      Bucket.dayBounds name date = .ok day ∧ zone.Meets date bound day.start
  /-- The first of a month as a bound meets the start of that month. -/
  month : ∀ date : Date, zone.Settles { date with day := 1 } → zone.Settles date.nextMonth →
    ∃ bound month, Instant.ofValue (.named name) (.text (Date.text { date with day := 1 })) =
        .ok bound ∧
      Bucket.monthBounds name date = .ok month ∧
      zone.Meets { date with day := 1 } bound month.start
  /-- A day asks for the same as the range from its date to the next. -/
  dayShortcut : ∀ (context : Context) (selection : Selection) (date next : Date),
    RangeRequest.zoneOr context.zone selection.zone = name →
    zone.Settles date → zone.Settles next → next.toDays = date.toDays + 1 →
    Selection.AskAlikeIff context { selection with day := some date.text }
      (selection.fromTo date next)
      (¬zone.ShowsTwice (Wall.midnight date) ∧ ¬zone.ShowsTwice (Wall.midnight next))
  /-- A month asks for the same as the range from its first day to that of the next. -/
  monthShortcut : ∀ (context : Context) (selection : Selection) (date : Date),
    RangeRequest.zoneOr context.zone selection.zone = name →
    zone.Settles { date with day := 1 } → zone.Settles date.nextMonth →
    Selection.AskAlikeIff context
      { selection with day := none, month := some (Selection.monthOf date) }
      (selection.fromTo { date with day := 1 } date.nextMonth)
      (¬zone.ShowsTwice (Wall.midnight { date with day := 1 }) ∧
        ¬zone.ShowsTwice (Wall.midnight date.nextMonth))
  /-- A plan for the months between two first days has one bucket for each month. -/
  months : ∀ (context : Context) (key : Value) (timezone : Option String) (aggregation : Value)
    (statistic : Statistic) (date : Date) (last : Nat),
    RangeRequest.zoneOr context.zone timezone = name →
    Aggregation.statisticOf aggregation = .ok statistic →
    date.day = 1 → Wall.inRange (zone.begins date * 1000) = true →
    (∀ k ≤ last + 1, zone.Settles (date.laterMonth k)) →
    ∃ builder planned plan,
      Builder.start context key (.text date.text) (.text (date.laterMonth (last + 1)).text)
        timezone = .ok builder ∧
      builder.step context (.aggregation aggregation (.text "month")) = (planned, none) ∧
      QueryPlan.make context.chunkSize context.zone planned.request = .ok plan ∧
      zone.HasMonths (.named name) date last plan.buckets

theorem LocalRanges.of_exactZone (found : Instant.exactZone name = .ok zone) :
    LocalRanges name zone where
  timetable := Zone.timetable_of_exactZone found
  recent date valid late early :=
    Zone.settles_recent (Zone.exactZone_known found).1 valid late early
  day date next settles following consecutive := by
    have charted := Zone.known_isCharted (Zone.exactZone_known found).1
    rw [Bucket.dayBounds_along found]
    exact ⟨_, _, Instant.ofValue_date (Instant.named_place found) settles.valid,
      Bucket.dayBoundsIn_eq charted settles following consecutive, settles.begins_le charted⟩
  month date settles following := by
    have charted := Zone.known_isCharted (Zone.exactZone_known found).1
    rw [Bucket.monthBounds_along found]
    exact ⟨_, _, Instant.ofValue_date (Instant.named_place found) settles.valid,
      Bucket.monthBoundsIn_eq charted settles following, settles.begins_le charted⟩
  dayShortcut context selection date next inForce settles following consecutive := by
    have charted := Zone.known_isCharted (Zone.exactZone_known found).1
    refine Selection.askAlikeIff_once found settles following rfl inForce ?_
    rw [Selection.bounds_day _ settles.valid, Bucket.dayBounds_along found,
      Bucket.dayBoundsIn_eq charted settles following consecutive]
    rfl
  monthShortcut context selection date inForce settles following := by
    have charted := Zone.known_isCharted (Zone.exactZone_known found).1
    refine Selection.askAlikeIff_once found settles following rfl inForce ?_
    rw [Selection.bounds_month selection settles.valid, Bucket.monthBounds_along found,
      Bucket.monthBoundsIn_eq charted settles following]
    rfl
  months context key timezone aggregation statistic date last inForce read first late settles := by
    obtain ⟨builder, planned, plan, started, stepped, made, starts⟩ :=
      QueryPlan.months_planned key found inForce read first late last settles
    exact ⟨builder, planned, plan, started, stepped, made,
      Zone.hasMonths (Zone.known_isCharted (Zone.exactZone_known found).1)
        (Instant.named_place found) settles starts⟩

end CalendarSeries
