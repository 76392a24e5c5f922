import CalendarSeries.Proofs.Outcome
import CalendarSeries.Proofs.Query.CallWords
import CalendarSeries.Proofs.Query.Chunks
/-!
The commands of a plan read back from their words. Planning changes the bounds, the alignment and
the timestamps of a request, but puts numbers where it does so; what is planned for a request in
numbers and marks is in numbers and marks again.
-/
namespace CalendarSeries

/-- A request that is sent as it is. -/
structure RangeRequest.IsSendable (request : RangeRequest) : Prop where
  written : request.IsWritten
  listed : request.timestamps ≠ some []
  plain : request.unit? = none

/-- An alignment to a bound. -/
theorem Bound.IsMark.align {bound : Bound} (isMark : bound.IsMark) :
    (∃ n : Int, bound.value = .int n) ∨
      ∃ mark ∈ RangeCall.alignMarks, bound.value = .text mark := by
  cases isMark with
  | oldest => exact .inr ⟨"-", by decide, rfl⟩
  | newest => exact .inr ⟨"+", by decide, rfl⟩
  | instant n => exact .inl ⟨n, rfl⟩

namespace QueryPlan

variable {request window : RangeRequest} {size : Int}

theorem isSendable_withChunks {timestamps : Option (List Int)} {parts : List RangeRequest}
    (sendable : window.IsSendable) (cut : withChunks size timestamps window = .ok parts)
    {part : RangeRequest} (member : part ∈ parts) : part.IsSendable := by
  cases timestamps with
  | none =>
    cases cut
    rw [List.mem_singleton.1 member]
    exact sendable
  | some stamps =>
    obtain ⟨chunked, dealt, rfl⟩ := map_succeeded cut
    obtain ⟨chunk, inside, rfl⟩ := List.mem_map.1 member
    obtain ⟨⟨keyed, starts, stops, aligned, valued, counted⟩, -, plain⟩ := sendable
    refine ⟨⟨keyed, starts, stops, aligned, valued, counted⟩, ?_, plain⟩
    unfold chunks at dealt
    split at dealt
    · cases dealt
      rintro ⟨⟩
      exact nil_not_mem_chunksOf inside
    · cases dealt

theorem isSendable_fixedWindows (written : request.IsWritten) (plain : request.unit? = none)
    (member : window ∈ fixedWindows request) : window.IsSendable := by
  obtain ⟨keyed, starts, stops, aligned, valued, counted⟩ := written
  unfold fixedWindows at member
  split at member
  · rw [List.mem_singleton.1 member]
    exact ⟨⟨keyed, starts, stops, aligned, valued, counted⟩, nofun, plain⟩
  · rw [List.mem_singleton.1 member]
    exact ⟨⟨keyed, starts, stops, aligned, valued, counted⟩, nofun, plain⟩
  · obtain ⟨range, -, rfl⟩ := List.mem_map.1 member
    refine ⟨⟨keyed, .instant _, .instant _, ?_, valued, counted⟩, nofun, plain⟩
    dsimp only
    split
    · exact starts.align
    · exact aligned

theorem isSendable_bucketWindows (written : request.IsWritten) {aggregation : Aggregation}
    {index : Nat} {bucket : Bucket} {ranges : Option (List TimeRange)}
    (member : window ∈ bucketWindows ranges bucket
      (bucketRequest request aggregation index bucket)) : window.IsSendable := by
  obtain ⟨keyed, starts, stops, -, valued, counted⟩ := written
  have start : (startOf request index bucket).IsMark := by
    unfold startOf
    split
    · exact starts
    · exact .instant _
  have whole : (bucketRequest request aggregation index bucket).IsSendable := by
    refine ⟨⟨keyed, start, ?_, start.align, valued, counted⟩, nofun, rfl⟩
    unfold bucketRequest
    dsimp only
    split
    · exact start
    · exact .instant _
  unfold bucketWindows at member
  split at member
  · rw [List.mem_singleton.1 member]
    exact whole
  · rw [List.mem_singleton.1 member]
    exact whole
  · obtain ⟨range, -, rfl⟩ := List.mem_map.1 member
    obtain ⟨⟨keyed, -, -, aligned, valued, counted⟩, listed, plain⟩ := whole
    exact ⟨⟨keyed, .instant _, .instant _, aligned, valued, counted⟩, listed, plain⟩

theorem plain_of_uncut (uncut : calendarAggregation? request = none) : request.unit? = none := by
  unfold calendarAggregation? at uncut
  unfold RangeRequest.unit?
  cases aggregated : request.aggregation with
  | none => rfl
  | some aggregation =>
    rw [aggregated, Option.bind_eq_bind, Option.bind_some] at uncut
    cases united : aggregation.unit? with
    | none => exact united
    | some => simp [united] at uncut

/-- Every command of a plan is one that is sent as it is. -/
theorem isSendable_of_make {zone : String} {plan : QueryPlan} {query : SubQuery}
    (written : request.IsWritten) (planned : make size zone request = .ok plan)
    (member : query ∈ plan.subqueries) : query.request.IsSendable := by
  unfold make at planned
  split at planned
  · cases planned
  · split at planned
    · rename_i uncut
      obtain ⟨parts, dealt, made⟩ := bind_succeeded planned
      cases made
      obtain ⟨single, among, rfl⟩ := List.mem_map.1 member
      have inside : single ∈ parts.flatten := by
        split at among
        · exact List.mem_reverse.1 among
        · exact among
      obtain ⟨part, there, among⟩ := List.mem_flatten.1 inside
      obtain ⟨window, windowed, cut⟩ := exists_of_mem_mapM dealt there
      exact isSendable_withChunks
        (isSendable_fixedWindows written (plain_of_uncut uncut) windowed) cut among
    · obtain ⟨⟨start, stop⟩, -, planned⟩ := bind_succeeded planned
      obtain ⟨buckets, -, planned⟩ := bind_succeeded planned
      obtain ⟨queried, asked, made⟩ := bind_succeeded planned
      cases made
      obtain ⟨queries, there, among⟩ := List.mem_flatten.1 member
      obtain ⟨⟨bucket, index⟩, -, asked⟩ := exists_of_mem_mapM asked there
      obtain ⟨parts, dealt, made⟩ := bind_succeeded asked
      cases made
      obtain ⟨single, inside, rfl⟩ := List.mem_map.1 among
      obtain ⟨part, there, among⟩ := List.mem_flatten.1 inside
      obtain ⟨window, windowed, cut⟩ := exists_of_mem_mapM dealt there
      exact isSendable_withChunks (isSendable_bucketWindows written windowed) cut among

/-- The words in which a command is sent, after its name. -/
def sentWords (query : SubQuery) : Except Error (List String) :=
  query.request.arguments.map Wire.arguments

/-- All clauses, after a key that is the word of one. -/
def allClauses : RangeRequest where
  key := .text "LATEST"
  start := .instant (-5)
  aggregation := some ⟨.sampleDeviation, .fixed 60⟩
  timestamps := some [7, -2]
  values := some (.int 0, .int 9)
  count := some (.int 3)
  align := .int 2
  latest := true

end QueryPlan

end CalendarSeries
