import CalendarSeries.Proofs.Outcome
import CalendarSeries.Query.Result
/-!
What can go wrong in reading replies. A pair whose first item is infinite denotes no timestamp and is
not malformed either, so it stops the reading. Every other row, of whatever shape, is read as a
sample or marked as malformed, and nothing but a reply that is no sequence stops it before that.
-/
namespace CalendarSeries

variable {value : Value} {error : Error}

namespace Value

/-- Whether a value is an infinite number. -/
def isInfinite : Value → Bool
  | double (.infinite _) | decimal (.infinite _) => true
  | _ => false

/-- Whether a value is a pair whose first item, the timestamp, is infinite. -/
def isStampedInfinite (row : Value) : Bool :=
  match row.pair with
  | .ok (stamp, _) => stamp.isInfinite
  | .error _ => false

theorem iterate_failed (failed : value.iterate = .error error) : error.kind = .type := by
  unfold iterate at failed
  split at failed <;> try cases failed
  split at failed <;> cases failed
  rfl

theorem pair_failed (failed : value.pair = .error error) : error.isTypeOrValue = true := by
  rcases bind_failed failed with unlisted | ⟨items, -, failed⟩
  · simp [Error.isTypeOrValue, iterate_failed unlisted]
  · match items with
    | [] => cases failed; rfl
    | [_] => cases failed; rfl
    | [_, _] => cases failed
    | _ :: _ :: _ :: _ => cases failed; rfl

theorem integerOf_failed {result : Except Whole.Fault Int}
    (failed : integerOf value result = .error error) : error.isTypeOrValue = true := by
  unfold integerOf at failed
  split at failed <;> cases failed <;> rfl

theorem toInteger_of_infinite (infinite : value.isInfinite = true) :
    ∃ cause, value.toInteger = .error (.outOfRange cause) := by
  unfold isInfinite at infinite
  split at infinite
  · exact ⟨.infiniteDouble, rfl⟩
  · exact ⟨.infiniteDecimal, rfl⟩
  · cases infinite

theorem toInteger_of_finite (finite : value.isInfinite = false)
    (failed : value.toInteger = .error error) : error.isTypeOrValue = true := by
  unfold toInteger at failed
  split at failed
  -- the infinities, bytes, texts and whole numbers, finite numbers, and what is no number
  case h_3 | h_6 => cases finite
  case h_1 => exact integerOf_failed failed
  case h_8 =>
    split at failed
    · cases failed
    · exact integerOf_failed failed
    · cases failed
      rfl
  case h_2 | h_5 => cases failed
  case h_4 | h_7 =>
    cases failed
    rfl

theorem decimalOfText_failed {content : List Char}
    (failed : decimalOfText value content = .error error) : error.isTypeOrValue = true := by
  unfold decimalOfText at failed
  split at failed <;> cases failed
  rfl

theorem toDecimal_failed (failed : value.toDecimal = .error error) :
    error.isTypeOrValue = true := by
  unfold toDecimal at failed
  split at failed
  · cases failed
  · cases failed
  · exact decimalOfText_failed failed
  · split at failed
    · exact decimalOfText_failed failed
    · cases failed
      rfl
  · split at failed
    · exact decimalOfText_failed failed
    · cases failed
      rfl

end Value

namespace Element

/-- The sample that a row denotes, or what is wrong with the row. -/
def parsed (row : Value) : Except Error Element := do
  let (stamp, value) ← row.pair
  let stamp ← stamp.toInteger
  .ok (sample stamp (.decimal (← value.toDecimal)))

variable {row : Value} {error : Error}

theorem ofRow_eq (row : Value) :
    ofRow row =
      match parsed row with
      | .ok element => .ok element
      | .error error => .error (if error.isTypeOrValue then .malformedRow row else error) :=
  rfl

theorem parsed_ok {element : Element} (read : parsed row = .ok element) :
    ∃ stamp x, element = .sample stamp (.decimal x) := by
  obtain ⟨⟨stamp, value⟩, -, read⟩ := bind_succeeded read
  obtain ⟨instant, -, read⟩ := bind_succeeded read
  obtain ⟨x, -, read⟩ := bind_succeeded read
  cases read
  exact ⟨instant, x, rfl⟩

theorem parsed_of_infinite (infinite : row.isStampedInfinite = true) :
    ∃ cause, parsed row = .error (.outOfRange cause) := by
  unfold Value.isStampedInfinite at infinite
  cases paired : row.pair with
  | error =>
    rw [paired] at infinite
    cases infinite
  | ok pair =>
    rw [paired] at infinite
    obtain ⟨cause, unread⟩ := Value.toInteger_of_infinite infinite
    exact ⟨cause, by simp only [parsed, paired, unread, bind, Except.bind]⟩

theorem parsed_of_finite (finite : row.isStampedInfinite = false)
    (failed : parsed row = .error error) : error.isTypeOrValue = true := by
  rcases bind_failed failed with unpaired | ⟨⟨stamp, value⟩, paired, failed⟩
  · exact Value.pair_failed unpaired
  rcases bind_failed failed with unstamped | ⟨instant, -, failed⟩
  · rw [Value.isStampedInfinite, paired] at finite
    exact Value.toInteger_of_finite finite unstamped
  rcases bind_failed failed with unnumbered | ⟨x, -, failed⟩
  · exact Value.toDecimal_failed unnumbered
  · cases failed

end Element

namespace QueryPlan

variable {row : Value}

theorem rowElement_of_infinite (infinite : row.isStampedInfinite = true) :
    ∃ cause, rowElement row = .error (.outOfRange cause) := by
  obtain ⟨cause, unread⟩ := Element.parsed_of_infinite infinite
  exact ⟨cause, by rw [rowElement, Element.ofRow_eq, unread]; rfl⟩

/-- Every row but one with an infinite timestamp is a sample, or malformed. -/
theorem rowElement_of_finite (finite : row.isStampedInfinite = false) :
    (∃ stamp x, rowElement row = .ok (.sample stamp (.decimal x))) ∨
      rowElement row = .ok (.failure (.malformedRow row)) := by
  rw [rowElement, Element.ofRow_eq]
  cases read : Element.parsed row with
  | ok element =>
    obtain ⟨stamp, x, rfl⟩ := Element.parsed_ok read
    exact .inl ⟨stamp, x, rfl⟩
  | error error =>
    simp only [Element.parsed_of_finite finite read, if_true]
    exact .inr trivial

theorem rowElement_failed (failed : rowElement row = .error error) : error.kind = .overflow := by
  cases infinite : row.isStampedInfinite with
  | true =>
    obtain ⟨cause, unread⟩ := rowElement_of_infinite infinite
    cases failed.symm.trans unread
    rfl
  | false =>
    rcases rowElement_of_finite infinite with ⟨stamp, x, read⟩ | read <;>
      cases failed.symm.trans read

theorem replyElements_failed (failed : replyElements value = .error error) :
    error.kind = .type ∨ error.kind = .overflow := by
  unfold replyElements at failed
  split at failed
  · cases failed
  · rcases bind_failed failed with unlisted | ⟨rows, -, failed⟩
    · unfold replyRows at unlisted
      split at unlisted
      · exact .inl (Value.iterate_failed unlisted)
      · cases unlisted
    · obtain ⟨row, -, failed⟩ := mapM_failed failed
      exact .inr (rowElement_failed failed)

theorem reconcile_failed {plan : QueryPlan} {replies : List Value}
    (failed : plan.reconcile replies = .error error) :
    error.kind = .type ∨ error.kind = .overflow := by
  obtain ⟨⟨subquery, reply⟩, -, failed⟩ := mapM_failed (map_failed failed)
  exact replyElements_failed (map_failed failed)

end QueryPlan

end CalendarSeries
