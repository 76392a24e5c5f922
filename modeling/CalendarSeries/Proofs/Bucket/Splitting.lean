import CalendarSeries.Proofs.Bucket.Tiling
import Mathlib.Data.List.ModifyLast
/-!
Cutting part of a range. A run of steps depends on nothing but where it stands, so a range that ends
earlier has the buckets of the longer one that start before its end, the last of them clamped; and a
range cut in two at a boundary has the buckets of the whole, the first part's before the second's.
-/
namespace CalendarSeries.Bucket

/-- The buckets that start before `stop`, the last of which ends there. -/
def endedAt (stop : Int) (buckets : List Bucket) : List Bucket :=
  (buckets.filter (·.start < stop)).modifyLast ({ · with stop := stop })

theorem endedAt_single {start stop later : Int} (early : start < stop) :
    endedAt stop [⟨start, later⟩] = [⟨start, stop⟩] := by
  rw [endedAt, List.filter_cons_of_pos (by simpa using early)]
  exact List.modifyLast_concat _ _ []

theorem endedAt_cons {bucket : Bucket} {rest : List Bucket} {stop : Int}
    (early : bucket.start < stop) (others : rest.filter (·.start < stop) ≠ []) :
    endedAt stop (bucket :: rest) = bucket :: endedAt stop rest := by
  rw [endedAt, List.filter_cons_of_pos (by simpa using early)]
  exact List.modifyLast_append_of_right_ne_nil _ [bucket] _ others

/-- What starts at `stop` or later is left out. -/
theorem endedAt_cons_late {bucket : Bucket} {rest : List Bucket} {stop : Int}
    (late : ∀ other ∈ rest, stop ≤ other.start) :
    endedAt stop (bucket :: rest) = endedAt stop [bucket] := by
  have none : rest.filter (·.start < stop) = [] := by
    simpa [List.filter_eq_nil_iff] using late
  rw [endedAt, endedAt, List.filter_cons, List.filter_cons, none, List.filter_nil]

namespace Run

variable {step : Int → Except Error Int} {start stop later : Int} {buckets : List Bucket}

/-- A run to an earlier end takes the same steps up to there. -/
theorem shortened (run : Run step later start buckets) (early : start < stop) (order : stop ≤ later) :
    Run step stop start (endedAt stop buckets) := by
  induction run with
  | last stepped onwards final =>
    rw [endedAt_single early]
    exact .last stepped onwards (by omega)
  | @next start boundary rest stepped onwards inner run ih =>
    rcases Int.lt_or_le boundary stop with further | final
    · have others : rest.filter (·.start < stop) ≠ [] := by
        intro none
        apply (ih further).ne_nil
        rw [endedAt, none]
        rfl
      rw [endedAt_cons early others]
      exact .next stepped onwards further (ih further)
    · have late : ∀ other ∈ rest, stop ≤ other.start := fun other member =>
        Int.le_trans final (run.le_start other member)
      rw [endedAt_cons_late late, endedAt_single early]
      exact .last stepped onwards final

/-- At each boundary inside it a run is the one up to there followed by the one from there. -/
theorem split (run : Run step stop start buckets) (long : start < stop) {boundary : Int}
    (bounds : boundary ∈ buckets.map Bucket.start ++ buckets.map Bucket.stop)
    (inside : boundary ≠ start) (before : boundary ≠ stop) :
    start < boundary ∧ boundary < stop ∧ ∃ first rest,
      Run step boundary start first ∧ Run step stop boundary rest ∧ first ++ rest = buckets := by
  induction run with
  | last => simp_all
  | @next start reached rest stepped onwards inner run ih =>
    by_cases here : boundary = reached
    · subst here
      exact ⟨onwards, inner, _, _, .last stepped onwards (Int.le_refl _), run, rfl⟩
    · have others : boundary ∈ rest.map Bucket.start ++ rest.map Bucket.stop := by
        simpa [inside, here] using bounds
      obtain ⟨after, within, first, second, toBoundary, fromBoundary, joined⟩ :=
        ih inner others here
      refine ⟨by omega, within, ⟨start, reached⟩ :: first, second,
        .next stepped onwards after toBoundary, fromBoundary, ?_⟩
      rw [List.cons_append, joined]

end Run

/-- Buckets of a range from which those of its parts can be told: of the same range with an earlier
end, and of the two parts before and after a boundary. -/
structure Divides (cut : Int → Int → Except Error (List Bucket)) (start later : Int)
    (buckets : List Bucket) : Prop where
  shorter : ∀ stop, start < stop → stop ≤ later → cut start stop = .ok (endedAt stop buckets)
  parts : ∀ boundary ∈ buckets.map Bucket.start ++ buckets.map Bucket.stop,
    boundary ≠ start → boundary ≠ later → ∃ first rest,
      cut start boundary = .ok first ∧ cut boundary later = .ok rest ∧ first ++ rest = buckets

theorem Run.divides {step : Int → Except Error Int} {start later : Int} {buckets : List Bucket}
    {cut : Int → Int → Except Error (List Bucket)}
    (cuts : ∀ {start stop buckets}, start ≤ stop → Run step stop start buckets →
      cut start stop = .ok buckets)
    (run : Run step later start buckets) (long : start < later) :
    Divides cut start later buckets where
  shorter stop early order := cuts (Int.le_of_lt early) (run.shortened early order)
  parts boundary bounds inside before := by
    obtain ⟨after, within, first, rest, toBoundary, fromBoundary, joined⟩ :=
      run.split long bounds inside before
    exact ⟨first, rest, cuts (Int.le_of_lt after) toBoundary,
      cuts (Int.le_of_lt within) fromBoundary, joined⟩

/-- The buckets of a calendar unit divide as their range does, in every known zone and along every
orderly timetable. -/
theorem calendar_divides (unit : CalendarUnit) (name : String) (start later : Int)
    (buckets : List Bucket) (long : start < later) :
    (calendar unit name start later = .ok buckets →
      Divides (calendar unit name) start later buckets) ∧
    ∀ table : Timetable, table.Orderly → cut (unitStep unit name table) start later = .ok buckets →
      Divides (cut (unitStep unit name table)) start later buckets := by
  constructor
  · intro result
    obtain ⟨table, zone⟩ := timetable_of_calendar result
    obtain ⟨-, run⟩ := (calendar_ok_iff zone).1 result
    exact run.divides (fun order run => (calendar_ok_iff zone).2 ⟨order, run⟩) long
  · intro table orderly result
    have run := (cut_unitStep_iff orderly (Int.le_of_lt long)).1 result
    exact run.divides (fun order => (cut_unitStep_iff orderly order).2) long

/-- Three days in New York, the second of which lacks an hour, and an hour less than two of them;
and two days along a timetable that skips a day between them. -/
theorem calendar_divides_springForward :
    (Divides (calendar .day "America/New_York") 1741410000000 1741665600000
        [⟨1741410000000, 1741496400000⟩, ⟨1741496400000, 1741579200000⟩,
          ⟨1741579200000, 1741665600000⟩] ∧
      calendar .day "America/New_York" 1741410000000 1741575600000 =
        .ok [⟨1741410000000, 1741496400000⟩, ⟨1741496400000, 1741575600000⟩]) ∧
    Divides (cut (unitStep .day "UTC" ⟨⟨-36000, 0⟩, [(36000, ⟨50400, 0⟩)]⟩)) (-50400000) 122400000
      [⟨-50400000, 36000000⟩, ⟨36000000, 122400000⟩] := by
  constructor
  · have divides := (calendar_divides .day "America/New_York" 1741410000000 1741665600000
      [⟨1741410000000, 1741496400000⟩, ⟨1741496400000, 1741579200000⟩,
        ⟨1741579200000, 1741665600000⟩] (by decide)).1 (ok_of_toOption (by decide +kernel))
    have shorter := divides.shorter 1741575600000 (by decide) (by decide)
    exact ⟨divides, shorter.trans (congrArg Except.ok (by decide))⟩
  · exact (calendar_divides .day "UTC" (-50400000) 122400000
      [⟨-50400000, 36000000⟩, ⟨36000000, 122400000⟩] (by decide)).2
      ⟨⟨-36000, 0⟩, [(36000, ⟨50400, 0⟩)]⟩ (by decide +kernel) (ok_of_toOption (by decide +kernel))

end CalendarSeries.Bucket
