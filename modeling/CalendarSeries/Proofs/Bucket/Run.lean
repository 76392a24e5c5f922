import CalendarSeries.Proofs.Bucket.Step
/-!
Cutting as a run of steps. The bound on the number of buckets is there for the recursion alone: as
steps lead on, what is cut is a run of them up to the first that reaches the end, and each such run
is what is cut. What holds of buckets by induction on the cutting is told of runs.
-/
namespace CalendarSeries.Bucket

/-- The buckets of steps that lead on from a start, up to the first step that reaches `stop`. -/
inductive Run (step : Int → Except Error Int) (stop : Int) : Int → List Bucket → Prop
  | last {start boundary : Int} (stepped : step start = .ok boundary) (onwards : start < boundary)
      (final : stop ≤ boundary) : Run step stop start [⟨start, stop⟩]
  | next {start boundary : Int} {rest : List Bucket} (stepped : step start = .ok boundary)
      (onwards : start < boundary) (inner : boundary < stop) (run : Run step stop boundary rest) :
      Run step stop start (⟨start, boundary⟩ :: rest)

variable {step : Int → Except Error Int} {start stop : Int} {buckets : List Bucket}

theorem run_of_cutWithin
    (progress : ∀ between boundary, step between = .ok boundary → between < boundary) {count : Nat}
    (order : start ≤ stop) (enough : stop - start < count)
    (cut : cutWithin step stop count start = .ok buckets) : Run step stop start buckets := by
  induction count generalizing start buckets with
  | zero => omega
  | succ count ih =>
    cases stepped : step start with
    | error => simp [cutWithin, stepped] at cut
    | ok boundary =>
      have onwards := progress start boundary stepped
      simp only [cutWithin, stepped] at cut
      split at cut
      · rename_i final
        cases cut
        exact .last stepped onwards final
      · cases others : cutWithin step stop count boundary with
        | error => rw [others] at cut; cases cut
        | ok rest =>
          rw [others] at cut
          cases cut
          exact .next stepped onwards (by omega) (ih (by omega) (by omega) others)

/-- From steps that succeed and lead on up to the end there is a run. -/
theorem exists_run (count : Nat) (order : start ≤ stop) (enough : stop - start < count)
    (progress : ∀ between, start ≤ between → between ≤ stop →
      ∃ boundary, step between = .ok boundary ∧ between < boundary) :
    ∃ buckets, Run step stop start buckets := by
  induction count generalizing start with
  | zero => omega
  | succ count ih =>
    obtain ⟨boundary, stepped, onwards⟩ := progress start (Int.le_refl start) order
    rcases Int.lt_or_le boundary stop with inner | final
    · obtain ⟨rest, run⟩ := ih (Int.le_of_lt inner) (by omega)
        fun between after before => progress between (by omega) before
      exact ⟨_, .next stepped onwards inner run⟩
    · exact ⟨_, .last stepped onwards final⟩

namespace Run

theorem cutWithin_eq (run : Run step stop start buckets) {count : Nat} (order : start ≤ stop)
    (enough : stop - start < count) : cutWithin step stop count start = .ok buckets := by
  induction run generalizing count with
  | last stepped onwards final =>
    obtain ⟨count, rfl⟩ : ∃ fewer, count = fewer + 1 := ⟨count - 1, by omega⟩
    simp only [cutWithin, stepped, if_pos final]
  | @next start boundary rest stepped onwards inner run ih =>
    obtain ⟨count, rfl⟩ : ∃ fewer, count = fewer + 1 := ⟨count - 1, by omega⟩
    have others : cutWithin step stop count boundary = .ok rest := ih (by omega) (by omega)
    simp only [cutWithin, stepped, if_neg (Int.not_le.2 inner), others]
    rfl

theorem ne_nil (run : Run step stop start buckets) : buckets ≠ [] := by
  cases run <;> simp

theorem exists_stepped (run : Run step stop start buckets) :
    ∃ boundary, step start = .ok boundary := by
  cases run with
  | last stepped => exact ⟨_, stepped⟩
  | next stepped => exact ⟨_, stepped⟩

/-- A run begins with a bucket that ends early exactly if the step leads to its end. -/
theorem cons_iff {bound : Bucket} {rest : List Bucket} (inner : bound.stop < stop) :
    Run step stop bound.start (bound :: rest) ↔
      step bound.start = .ok bound.stop ∧ bound.start < bound.stop ∧
        Run step stop bound.stop rest := by
  obtain ⟨first, finish⟩ := bound
  constructor
  · intro run
    cases run with
    | last => exact absurd inner (Int.lt_irrefl _)
    | next stepped onwards _ run => exact ⟨stepped, onwards, run⟩
  · rintro ⟨stepped, onwards, run⟩
    exact .next stepped onwards inner run

/-- No bucket starts before the run does. -/
theorem le_start (run : Run step stop start buckets) : ∀ bucket ∈ buckets, start ≤ bucket.start := by
  induction run with
  | last => simp
  | next stepped onwards inner run ih =>
    intro bucket member
    rcases List.mem_cons.1 member with rfl | later
    · exact Int.le_refl _
    · have := ih bucket later
      omega

/-- Each bucket but the last ends where its step leads. -/
theorem stepped_of_mem_dropLast (run : Run step stop start buckets) :
    ∀ bucket ∈ buckets.dropLast, step bucket.start = .ok bucket.stop := by
  induction run with
  | last => simp
  | next stepped onwards inner run ih =>
    rw [List.dropLast_cons_of_ne_nil run.ne_nil]
    intro bucket member
    rcases List.mem_cons.1 member with rfl | later
    · exact stepped
    · exact ih bucket later

/-- The last bucket ends where the run does, and its step leads there or beyond. -/
theorem stepped_of_last (run : Run step stop start buckets) :
    ∀ bucket ∈ buckets.getLast?, bucket.stop = stop ∧
      ∃ boundary, step bucket.start = .ok boundary ∧ stop ≤ boundary := by
  induction run with
  | @last start boundary stepped onwards final =>
    intro bucket member
    cases member
    exact ⟨rfl, boundary, stepped, final⟩
  | next stepped onwards inner run ih =>
    rwa [List.getLast?_cons_of_ne_nil run.ne_nil]

/-- Steps that lead from start to start make a run whose buckets but the first begin at the starts
before the end. -/
theorem of_starts (starts : Nat → Int) (count : Nat)
    (stepped : ∀ k ≤ count, step (starts k) = .ok (starts (k + 1)))
    (onwards : ∀ k ≤ count, starts k < starts (k + 1)) (final : stop ≤ starts (count + 1)) :
    ∃ buckets, Run step stop (starts 0) buckets ∧ buckets.map Bucket.start =
      starts 0 :: ((List.range count).map fun k => starts (k + 1)).takeWhile (· < stop) := by
  induction count generalizing starts with
  | zero => exact ⟨_, .last (stepped 0 (Nat.le_refl 0)) (onwards 0 (Nat.le_refl 0)) final, rfl⟩
  | succ count ih =>
    have first := stepped 0 (Nat.zero_le _)
    have later := onwards 0 (Nat.zero_le _)
    rw [List.range_succ_eq_map, List.map_cons, List.map_map, List.takeWhile_cons]
    rcases Int.lt_or_le (starts 1) stop with inner | reached
    · obtain ⟨rest, run, begin⟩ := ih (fun k => starts (k + 1))
        (fun k bound => stepped (k + 1) (by omega)) (fun k bound => onwards (k + 1) (by omega)) final
      refine ⟨_, .next first later inner run, ?_⟩
      rw [List.map_cons, begin, if_pos (by simpa using inner)]
      rfl
    · refine ⟨_, .last first later reached, ?_⟩
      rw [if_neg (by simpa using reached)]
      rfl

end Run

/-- What is cut is the run of steps from start to stop. -/
theorem cut_ok_iff (progress : ∀ between boundary, step between = .ok boundary → between < boundary)
    (order : start ≤ stop) : cut step start stop = .ok buckets ↔ Run step stop start buckets :=
  ⟨run_of_cutWithin progress order (by omega), fun run => run.cutWithin_eq order (by omega)⟩

variable {unit : CalendarUnit} {name : String}

theorem cut_unitStep_iff {table : Timetable} (orderly : table.Orderly) (order : start ≤ stop) :
    cut (unitStep unit name table) start stop = .ok buckets ↔
      Run (unitStep unit name table) stop start buckets :=
  cut_ok_iff (fun _ _ => lt_of_step orderly) order

end CalendarSeries.Bucket
