import CalendarSeries.Proofs.Calendar.IsoText
import CalendarSeries.Proofs.CommandLine.Exit
import CalendarSeries.Proofs.Instant.Milliseconds
/-!
Written times read back. What the clock of a zone shows is written with its offset, so the text
names one instant, in an hour that the clock shows twice too, and comes to the milliseconds that it
was made of whatever zone texts without an offset are read in.
-/
namespace CalendarSeries

theorem Iso.isTold_zero : Iso.IsTold 0 where
  short := by decide
  whole := .inl rfl

theorem Regime.IsShort.isTold {regime : Regime} (short : regime.IsShort) :
    Iso.IsTold regime.shift where
  short := short.shift_bounds
  whole := by
    rw [shift, Timetable.perSecond_eq]
    omega

namespace Instant

variable {assumed : Assumed} {wall offset : Int} {n : Int} {name : String} {zone : Zone}

theorem Assumed.HasOffset.isTold {instant : Int} (ahead : assumed.HasOffset instant offset) :
    Iso.IsTold offset := by
  cases ahead with
  | universal => exact Iso.isTold_zero
  | named found =>
    have orderly := Zone.known_isOrderly _ (Zone.exactZone_known (exactZone_ok found)).1
    exact (orderly.regimeAt_isShort (instant / Micros.perSecond)).isTold
  | zone short => exact short.isTold

theorem readShown_render (inRange : Wall.inRange wall = true) (told : Iso.IsTold offset)
    (assumed : Assumed) (shown : String) :
    readShown assumed (Iso.render ⟨wall, some offset⟩) shown =
      .ok (wall, placeOfOffset offset) := by
  rw [readShown, Iso.strip_render, Iso.spellZulu_render, Iso.read_render inRange told]

theorem ofReading_placeOfOffset (wall offset : Int) :
    @Eq Int (ofReading wall (placeOfOffset offset)) (wall - offset) := by
  rw [ofReading, placeOffset?_placeOfOffset]
  rfl

/-- The text of a reading at an offset comes to the milliseconds of its instant. -/
theorem ofValue_render (inRange : Wall.inRange wall = true) (told : Iso.IsTold offset)
    (assumed : Assumed) :
    ofValue assumed (.text (Iso.render ⟨wall, some offset⟩)) = .ok ((wall - offset) / 1000) := by
  simp only [ofValue, Value.text?, readShown_render inRange told, Except.map,
    ofReading_placeOfOffset, milliseconds_eq]

theorem ofValue_written (ahead : assumed.HasOffset (n * 1000) offset)
    (shown : Wall.inRange (n * 1000 + offset) = true) (other : Assumed) :
    ofValue other (.text (Iso.render ⟨n * 1000 + offset, some offset⟩)) = .ok n := by
  rw [ofValue_render shown ahead.isTold, Int.add_sub_cancel, Int.mul_ediv_cancel n (by decide)]

/-- The time in a row is its stamp on the clock of the zone. -/
theorem stamp_of_row {value : Value} {row : CommandLine.Row}
    (made : CommandLine.Row.ofReading name n value = .ok row) :
    row.stamp = n ∧ ∀ other, ofValue other (.text row.time) = .ok n := by
  obtain ⟨reading, read, rfl⟩ := map_succeeded made
  obtain ⟨zone, found, inRange, shown⟩ := isWritable_of_readingIn read
  have ahead : (Assumed.named name).HasOffset (n * 1000) _ := .named found
  cases read.symm.trans (ahead.readingIn_eq inRange shown)
  exact ⟨rfl, ofValue_written ahead shown⟩

theorem stamps_of_rows {readings : List (Int × Value)} {rows : List CommandLine.Row}
    (made : CommandLine.Row.ofReadings name readings = .ok rows) :
    rows.map (·.stamp) = readings.map (·.1) ∧
      ∀ row ∈ rows, ∀ other, ofValue other (.text row.time) = .ok row.stamp := by
  have each := mapM_ok_iff.1 made
  clear made
  induction each with
  | nil => exact ⟨rfl, by simp⟩
  | cons found _ ih =>
    obtain ⟨stamps, times⟩ := ih
    obtain ⟨stamp, time⟩ := stamp_of_row found
    refine ⟨?_, List.forall_mem_cons.2 ⟨?_, times⟩⟩
    · rw [List.map_cons, List.map_cons, stamp, stamps]
    · rwa [stamp]

theorem readUniversal_render (inRange : Wall.inRange wall = true) :
    readUniversal (Iso.render ⟨wall, some 0⟩) = .ok ⟨wall, some 0⟩ := by
  have checked := Bucket.checked_ok_iff.2 ⟨inRange, rfl⟩
  rw [readUniversal, read, readShown_render inRange Iso.isTold_zero]
  change (Instant.checked (ofReading wall .universal)).map _ = _
  rw [show @Eq Int (ofReading wall .universal) wall from Int.sub_zero wall, checked, Except.map]

theorem readUniversal_universalText {place : Place}
    (inRange : Wall.inRange (ofReading wall place) = true) :
    ∃ text, universalText wall place = .ok text ∧
      readUniversal text = .ok ⟨ofReading wall place, some 0⟩ := by
  refine ⟨Iso.render ⟨ofReading wall place, some 0⟩, ?_, readUniversal_render inRange⟩
  rw [universalText, Bucket.checked_ok_iff.2 ⟨inRange, rfl⟩, Except.map]

/-- Milliseconds whose instant and local reading can be written are shown with the offset in force,
and the text comes to them again, in the rows of samples too. What is written in universal time is
read as the same instant, to the microsecond. -/
theorem written_readBack :
    (∀ (assumed : Assumed) (n offset : Int), assumed.HasOffset (n * 1000) offset →
      Wall.inRange (n * 1000) = true → Wall.inRange (n * 1000 + offset) = true →
      ∃ reading, readingIn assumed n = .ok reading ∧ reading = ⟨n * 1000 + offset, some offset⟩ ∧
        ∀ other, ofValue other (.text (Iso.render reading)) = .ok n) ∧
    (∀ (zone : String) (elements : List Element) (terminal : CommandLine.Terminal),
      (∀ sample ∈ elements.filterMap Element.reading?, IsWritable zone sample.1) →
      ∃ rows, (CommandLine.Row.ofElements zone elements terminal).1 = .ok rows ∧
        rows.map (·.stamp) = (elements.filterMap Element.reading?).map (·.1) ∧
        ∀ row ∈ rows, ∀ other, ofValue other (.text row.time) = .ok row.stamp) ∧
    (∀ (wall : Int) (place : Place), Wall.inRange (ofReading wall place) = true →
      ∃ text, universalText wall place = .ok text ∧
        readUniversal text = .ok ⟨ofReading wall place, some 0⟩) := by
  refine ⟨fun assumed n offset ahead inRange shown => ?_, fun zone elements terminal writable => ?_,
    fun wall place inRange => readUniversal_universalText inRange⟩
  · exact ⟨_, ahead.readingIn_eq inRange shown, rfl, ofValue_written ahead shown⟩
  · obtain ⟨rows, made⟩ := CommandLine.Row.ofReadings_ok_iff.2 writable
    refine ⟨rows, ?_, stamps_of_rows made⟩
    rw [CommandLine.Row.ofElements_eq, made]

/-- The clocks of Brussels show two o'clock twice when summer ends, each time with another offset.
Those of Monrovia were half a minute off, which the row of a sample tells. -/
theorem written_readBack_twice :
    (∃ reading, readingIn (.named "Europe/Brussels") 1729987200000 = .ok reading ∧
      Iso.render reading = "2024-10-27T02:00:00+02:00" ∧
      ∀ other, ofValue other (.text (Iso.render reading)) = .ok 1729987200000) ∧
    (∃ reading, readingIn (.zone Zone.brussels) 1729990800000 = .ok reading ∧
      Iso.render reading = "2024-10-27T02:00:00+01:00" ∧
      ∀ other, ofValue other (.text (Iso.render reading)) = .ok 1729990800000) ∧
    (∃ rows, (CommandLine.Row.ofElements "Africa/Monrovia" [.sample 47177070001 .none] {}).1 =
        .ok rows ∧
      rows = [⟨47177070001, "1971-07-01T00:00:00.001000-00:44:30", "None"⟩] ∧
      ∀ row ∈ rows, ∀ other, ofValue other (.text row.time) = .ok row.stamp) ∧
    ∃ text, universalText (-1) (.offset (-2670000000)) = .ok text ∧
      readUniversal text = .ok ⟨2669999999, some 0⟩ := by
  obtain ⟨shown, rows, universal⟩ := written_readBack
  have summer : Zone.brussels.offsetAt (1729987200000 * 1000) = 7200000000 := by decide +kernel
  have winter : Zone.brussels.offsetAt (1729990800000 * 1000) = 3600000000 := by decide +kernel
  refine ⟨?_, ?_, ?_, universal (-1) (.offset (-2670000000)) (by decide)⟩
  · have found : Zone.find "Europe/Brussels" = .ok Zone.brussels := rfl
    obtain ⟨reading, read, rfl, back⟩ := shown (.named "Europe/Brussels") 1729987200000 _
      (.named found) (by decide) (by rw [summer]; decide)
    exact ⟨_, read, by rw [summer]; decide +kernel, back⟩
  · obtain ⟨reading, read, rfl, back⟩ := shown (.zone Zone.brussels) 1729990800000 _
      (.zone (by decide +kernel)) (by decide) (by rw [winter]; decide)
    exact ⟨_, read, by rw [winter]; decide +kernel, back⟩
  · have writable : IsWritable "Africa/Monrovia" 47177070001 :=
      ⟨Zone.monrovia, rfl, by decide, by decide +kernel⟩
    obtain ⟨made, found, -, back⟩ := rows "Africa/Monrovia" [.sample 47177070001 .none] {}
      (by simpa [Element.reading?] using writable)
    have row : (CommandLine.Row.ofElements "Africa/Monrovia" [.sample 47177070001 .none] {}).1 =
        .ok [⟨47177070001, "1971-07-01T00:00:00.001000-00:44:30", "None"⟩] :=
      Bucket.ok_of_toOption (by decide +kernel)
    exact ⟨made, found, Except.ok.inj (found.symm.trans row), back⟩

end Instant

end CalendarSeries
