import CalendarSeries.Proofs.Zone.Orderly
import Mathlib.Data.List.Chain
/-!
Lists of changes, and what they come to on the wall. A change of the clocks takes effect on the wall
once neither of its two offsets leads to an earlier reading. So where changes lie days apart, a
reading is made under the offset that holds at its instant under the greater of the offsets a day
before and a day after it: one that was shown twice counts as shown before the change, and one that
was skipped counts under the offset before it.
-/
namespace CalendarSeries.Zone

open Timetable (spacing)

/-- The regime that a list of changes ends with. -/
def final : Regime → List (Int × Regime) → Regime
  | before, [] => before
  | _, (_, after) :: rest => final after rest

/-- Changes that lie days apart and lead to offsets shorter than a day. -/
structure Spaced (changes : List (Int × Regime)) : Prop where
  apart : changes.Pairwise fun earlier later => earlier.1 + spacing ≤ later.1
  short : ∀ change ∈ changes, change.2.IsShort

instance (changes : List (Int × Regime)) : Decidable (Spaced changes) :=
  have : IsTrans (Int × Regime) fun earlier later => earlier.1 + spacing ≤ later.1 :=
    ⟨fun _ _ _ first second => by
      have : (0 : Int) < spacing := by decide
      omega⟩
  decidable_of_iff
    ((changes.IsChain fun earlier later => earlier.1 + spacing ≤ later.1) ∧
      ∀ change ∈ changes, change.2.IsShort)
    ⟨fun ⟨apart, short⟩ => ⟨List.isChain_iff_pairwise.1 apart, short⟩,
      fun ⟨apart, short⟩ => ⟨List.isChain_iff_pairwise.2 apart, short⟩⟩

variable {before : Regime} {changes later : List (Int × Regime)} {moment : Int}

section Lookup

theorem lastUpTo_cons_past {instant : Int} {after : Regime} (reached : instant ≤ moment) :
    lastUpTo before moment ((instant, after) :: changes) = lastUpTo after moment changes := by
  rw [lastUpTo, if_pos reached]

theorem lastUpTo_ahead (ahead : ∀ change ∈ changes, moment < change.1) :
    lastUpTo before moment changes = before := by
  cases changes with
  | nil => rfl
  | cons change rest =>
    rw [lastUpTo, if_neg (Int.not_le.2 (ahead change List.mem_cons_self))]

theorem lastUpTo_append_ahead (ahead : ∀ change ∈ later, moment < change.1) :
    lastUpTo before moment (changes ++ later) = lastUpTo before moment changes := by
  induction changes generalizing before with
  | nil => exact lastUpTo_ahead ahead
  | cons change rest ih =>
    rw [List.cons_append, lastUpTo, lastUpTo, ih]

theorem lastUpTo_append_past (past : ∀ change ∈ changes, change.1 ≤ moment) :
    lastUpTo before moment (changes ++ later) = lastUpTo (final before changes) moment later := by
  induction changes generalizing before with
  | nil => rfl
  | cons change rest ih =>
    obtain ⟨first, others⟩ := List.forall_mem_cons.1 past
    rw [List.cons_append, lastUpTo_cons_past first, ih others, final]

theorem lastUpTo_past (past : ∀ change ∈ changes, change.1 ≤ moment) :
    lastUpTo before moment changes = final before changes := by
  have all : lastUpTo before moment (changes ++ []) = lastUpTo (final before changes) moment [] :=
    lastUpTo_append_past past
  rwa [List.append_nil] at all

theorem final_append : final before (changes ++ later) = final (final before changes) later := by
  induction changes generalizing before with
  | nil => rfl
  | cons change rest ih => exact ih

/-- What holds of all regimes holds of the one at a moment. -/
theorem lastUpTo_of_forall (holds : Regime → Prop) (first : holds before)
    (others : ∀ change ∈ changes, holds change.2) : holds (lastUpTo before moment changes) := by
  induction changes generalizing before with
  | nil => exact first
  | cons change rest ih =>
    obtain ⟨next, rest⟩ := List.forall_mem_cons.1 others
    rw [lastUpTo]
    split
    · exact ih next rest
    · exact first

theorem final_of_forall {holds : Regime → Prop} (first : holds before)
    (others : ∀ change ∈ changes, holds change.2) : holds (final before changes) := by
  induction changes generalizing before with
  | nil => exact first
  | cons change rest ih =>
    obtain ⟨next, rest⟩ := List.forall_mem_cons.1 others
    exact ih next rest

end Lookup

namespace Spaced

theorem nil : Spaced [] :=
  ⟨.nil, by simp⟩

theorem cons_iff {change : Int × Regime} :
    Spaced (change :: changes) ↔
      (∀ other ∈ changes, change.1 + spacing ≤ other.1) ∧ change.2.IsShort ∧ Spaced changes := by
  constructor
  · rintro ⟨apart, short⟩
    obtain ⟨first, others⟩ := List.pairwise_cons.1 apart
    obtain ⟨next, rest⟩ := List.forall_mem_cons.1 short
    exact ⟨first, next, others, rest⟩
  · rintro ⟨first, next, others, rest⟩
    exact ⟨List.pairwise_cons.2 ⟨first, others⟩, List.forall_mem_cons.2 ⟨next, rest⟩⟩

theorem append (spaced : Spaced changes) (others : Spaced later)
    (apart : ∀ change ∈ changes, ∀ other ∈ later, change.1 + spacing ≤ other.1) :
    Spaced (changes ++ later) where
  apart := List.pairwise_append.2 ⟨spaced.apart, others.apart, apart⟩
  short _ member := (List.mem_append.1 member).elim (spaced.short _) (others.short _)

theorem filter (spaced : Spaced changes) (kept : Int × Regime → Bool) :
    Spaced (changes.filter kept) where
  apart := spaced.apart.filter kept
  short change member := spaced.short change (List.mem_of_mem_filter member)

/-- The changes before a moment come first. -/
theorem split (spaced : Spaced changes) (moment : Int) :
    changes.filter (·.1 < moment) ++ changes.filter (moment ≤ ·.1) = changes := by
  induction changes with
  | nil => rfl
  | cons change rest ih =>
    obtain ⟨first, -, others⟩ := cons_iff.1 spaced
    rcases Int.lt_or_le change.1 moment with early | late
    · simp [early, Int.not_le.2 early, ih others]
    · have none : rest.filter (·.1 < moment) = [] := by
        have positive : 0 < spacing := by decide
        simp only [List.filter_eq_nil_iff, decide_eq_true_eq]
        intro other member
        have apart := first other member
        omega
      have all := ih others
      rw [none] at all
      simp only [List.nil_append] at all
      simp [late, Int.not_lt.2 late, none, all]

theorem final_filter (spaced : Spaced changes) :
    final before (changes.filter (·.1 < moment + 1)) = lastUpTo before moment changes := by
  conv_rhs => rw [← spaced.split (moment + 1)]
  rw [lastUpTo_append_ahead, lastUpTo_past]
  · intro change member
    have early := List.of_mem_filter member
    simp only [decide_eq_true_eq] at early
    omega
  · intro change member
    have late := List.of_mem_filter member
    simp only [decide_eq_true_eq] at late
    omega

/-- From a moment on the changes up to it tell no more than what they ended with. -/
theorem lastUpTo_filter (spaced : Spaced changes) {earlier : Int} (order : earlier ≤ moment) :
    lastUpTo before moment changes =
      lastUpTo (lastUpTo before earlier changes) moment (changes.filter (earlier < ·.1)) := by
  have past : ∀ change ∈ changes.filter (·.1 < earlier + 1), change.1 ≤ moment := by
    intro change member
    have early := List.of_mem_filter member
    simp only [decide_eq_true_eq] at early
    omega
  conv_lhs => rw [← spaced.split (earlier + 1)]
  rw [lastUpTo_append_past past, spaced.final_filter]
  rfl

end Spaced

theorem wallChanges_append : wallChanges before (changes ++ later) =
    wallChanges before changes ++ wallChanges (final before changes) later := by
  induction changes generalizing before with
  | nil => rfl
  | cons change rest ih => simp only [List.cons_append, wallChanges, ih, final]

theorem final_wallChanges : final before (wallChanges before changes) = final before changes := by
  induction changes generalizing before with
  | nil => rfl
  | cons change rest ih => exact ih

/-- A change takes effect on the wall under its own offset or a greater one, but no greater than all
of the offsets. -/
theorem exists_of_mem_wallChanges {greatest : Int} {shown : Int × Regime}
    (first : before.offset ≤ greatest) (others : ∀ change ∈ changes, change.2.offset ≤ greatest)
    (member : shown ∈ wallChanges before changes) :
    ∃ change ∈ changes, change.1 + change.2.offset ≤ shown.1 ∧
      shown.1 ≤ change.1 + greatest := by
  induction changes generalizing before with
  | nil => cases member
  | cons change rest ih =>
    obtain ⟨next, later⟩ := List.forall_mem_cons.1 others
    rcases List.mem_cons.1 member with rfl | inRest
    · exact ⟨change, List.mem_cons_self, by dsimp only; omega, by dsimp only; omega⟩
    · obtain ⟨found, inside, bounds⟩ := ih next later inRest
      exact ⟨found, List.mem_cons_of_mem _ inside, bounds⟩

/-- While a list of changes is a day away, the wall shows what held before it. -/
theorem lastUpTo_wall_ahead (short : before.IsShort)
    (ahead : ∀ change ∈ changes, moment + 86400 ≤ change.1) :
    lastUpTo before moment (wallChanges before changes) = before := by
  cases changes with
  | nil => rfl
  | cons change rest =>
    have first := ahead change List.mem_cons_self
    have low := short.1
    rw [wallChanges, lastUpTo, if_neg (by omega)]

/-- What a list of changes has on the wall is what it has at the instant under the greater of the
offsets a day before and a day after. -/
theorem lastUpTo_wallChanges (short : before.IsShort) (spaced : Spaced changes) (reading : Int) :
    lastUpTo before reading (wallChanges before changes) =
      lastUpTo before (reading - max (lastUpTo before (reading - 86400) changes).offset
        (lastUpTo before (reading + 86400) changes).offset) changes := by
  induction changes generalizing before with
  | nil => rfl
  | cons change rest ih =>
    obtain ⟨instant, after⟩ := change
    obtain ⟨apart, next, others⟩ := Spaced.cons_iff.1 spaced
    have week : spacing = 259200 := rfl
    have rest_ahead {moment : Int} (early : moment < instant + spacing) :
        lastUpTo after moment rest = after :=
      lastUpTo_ahead fun other member => Int.lt_of_lt_of_le early (apart other member)
    have change_ahead {moment : Int} (early : moment < instant) :
        lastUpTo before moment ((instant, after) :: rest) = before := by
      rw [lastUpTo, if_neg (Int.not_le.2 early)]
    obtain ⟨low, high⟩ := id short
    have nextLow : -86400 < after.offset := next.1
    have nextHigh : after.offset < 86400 := next.2
    rcases Int.lt_or_le (reading + 86400) instant with ahead | begun
    · rw [change_ahead ahead, change_ahead (by omega : reading - 86400 < instant),
        change_ahead (by omega), wallChanges, lastUpTo, if_neg (by omega)]
    rw [lastUpTo_cons_past begun, wallChanges]
    rcases Int.lt_or_le (reading - 86400) instant with within | past
    · -- the change lies within a day, and all others lie further off
      rw [change_ahead within, rest_ahead (by omega)]
      rcases Int.lt_or_le reading (instant + max before.offset after.offset) with early | late
      · rw [lastUpTo, if_neg (Int.not_le.2 early), change_ahead (by omega)]
      · rw [lastUpTo_cons_past late, lastUpTo_cons_past (by omega), rest_ahead (by omega)]
        refine lastUpTo_wall_ahead next fun other member => ?_
        have further := apart other member
        dsimp only at further
        omega
    · have less : (lastUpTo after (reading - 86400) rest).IsShort :=
        lastUpTo_of_forall Regime.IsShort next others.short
      have lesser : (lastUpTo after (reading + 86400) rest).IsShort :=
        lastUpTo_of_forall Regime.IsShort next others.short
      have lessHigh := less.2
      have lesserHigh := lesser.2
      rw [lastUpTo_cons_past past, lastUpTo_cons_past (by omega), lastUpTo_cons_past (by omega)]
      exact ih next others

end CalendarSeries.Zone
