import CalendarSeries.Proofs.Query.Server
import CalendarSeries.Wire
/-!
Range commands read back from the words they are sent in. A word is a number or stands for itself;
the clauses have a fixed order and each starts with a word of its own, so what belongs to one ends
where the next starts.
-/
namespace CalendarSeries

namespace Text

/-- A number in ASCII digits. -/
def natural? (cs : List Char) : Option Nat :=
  if cs ≠ [] ∧ cs.all Char.isDigit = true then some (Nat.ofDigitChars 10 cs 0) else none

/-- A whole number in ASCII digits, with a minus sign below zero. -/
def whole? (cs : List Char) : Option Int :=
  if cs.head? = some '-' then (natural? cs.tail).map fun n : Nat => -(n : Int)
  else (natural? cs).map fun n : Nat => (n : Int)

theorem natural?_toDigits (n : Nat) : natural? (Nat.toDigits 10 n) = some n := by
  have digits : (Nat.toDigits 10 n).all Char.isDigit = true :=
    List.all_eq_true.2 fun c member => Nat.isDigit_of_mem_toDigits (by decide) (by decide) member
  rw [natural?, if_pos ⟨Nat.toDigits_ne_nil, digits⟩, Nat.ofDigitChars_ten_toDigits]

theorem whole?_ofInt (n : Int) : whole? (ofInt n) = some n := by
  unfold ofInt
  split
  · rename_i negative
    rw [whole?, if_pos List.head?_cons, List.tail_cons, natural?_toDigits, Option.map_some]
    congr
    omega
  · rename_i positive
    have unsigned : (Nat.toDigits 10 n.natAbs).head? ≠ some '-' := by
      intro first
      have digit := Nat.isDigit_of_mem_toDigits (by decide) (by decide) (List.mem_of_head? first)
      cases digit
    rw [whole?, if_neg unsigned, natural?_toDigits, Option.map_some]
    congr
    omega

end Text

/-- What a word stands for: a number, or itself. -/
def token (word : String) : Value :=
  match Text.whole? word.toList with
  | some n => .int n
  | none => .text word

/-- A value that its word stands for. -/
def IsToken (value : Value) : Prop :=
  (∃ n, value = .int n) ∨ ∃ word, value = .text word ∧ Text.whole? word.toList = none

theorem IsToken.sent {value : Value} (isToken : IsToken value) :
    Wire.argument value = [Wire.word value] ∧ token (Wire.word value) = value := by
  rcases isToken with ⟨n, rfl⟩ | ⟨word, rfl, unread⟩
  · refine ⟨rfl, ?_⟩
    change token (Value.intText n) = _
    rw [token, Value.intText, String.toList_ofList, Text.whole?_ofInt]
  · refine ⟨rfl, ?_⟩
    change token word = _
    rw [token, unread]

theorem map_token_arguments {arguments : List Value} (each : ∀ value ∈ arguments, IsToken value) :
    (Wire.arguments arguments).map token = arguments := by
  induction arguments with
  | nil => rfl
  | cons value arguments ih =>
    obtain ⟨first, later⟩ := List.forall_mem_cons.1 each
    obtain ⟨single, back⟩ := first.sent
    rw [Wire.arguments, List.map_append, ih later, single, List.map_singleton, back]
    rfl

/-- What a command says of the buckets that its rows are for. -/
structure Grouping where
  align : Value
  aggregation : Aggregation
  includeEmpty : Bool

/-- What the words of a range command say. -/
structure RangeCall where
  key : Value
  start : Bound
  stop : Bound
  latest : Bool
  timestamps : Option (List Int)
  values : Option (Value × Value)
  count : Option Value
  grouping : Option Grouping

/-- What a request says to the server. -/
def RangeRequest.said (request : RangeRequest) : RangeCall :=
  ⟨request.key, request.start, request.stop, request.latest, request.timestamps, request.values,
    request.count, request.aggregation.map fun aggregation =>
      ⟨request.align, aggregation, request.includeEmpty⟩⟩

namespace RangeCall

def boundMarks : List String := ["-", "+"]

def alignMarks : List String := ["start", "end", "-", "+"]

/-- A number, or one of some marks. -/
def readMark? (marks : List String) : Value → Option Value
  | .int n => some (.int n)
  | .text word => if word ∈ marks then some (.text word) else none
  | _ => none

def readLatest : List Value → Bool × List Value
  | .text "LATEST" :: rest => (true, rest)
  | rest => (false, rest)

def readCount : List Value → Option Value × List Value
  | .text "COUNT" :: .int count :: rest => (some (.int count), rest)
  | rest => (none, rest)

def readEmpty? : List Value → Option Bool
  | [.text "EMPTY"] => some true
  | [] => some false
  | _ => none

/-- The clauses of the buckets, which end a command. -/
def readGrouping? : List Value → Option (Option Grouping)
  | .text "ALIGN" :: align :: .text "AGGREGATION" :: .text word :: .int duration :: rest => do
    let align ← readMark? alignMarks align
    let statistic ← Statistic.ofWord? word
    let includeEmpty ← readEmpty? rest
    some (some ⟨align, ⟨statistic, .fixed duration⟩, includeEmpty⟩)
  | [] => some none
  | _ => none

/-- A range command from the words after its name: a key and two bounds, then `LATEST`,
`FILTER_BY_TS`, `FILTER_BY_VALUE`, `COUNT`, `ALIGN` with `AGGREGATION` and `EMPTY`, as far as they
are there. -/
def read? : List String → Option RangeCall
  | key :: start :: stop :: words => do
    let start ← readMark? boundMarks (token start)
    let stop ← readMark? boundMarks (token stop)
    let (latest, clauses) := readLatest (words.map token)
    let (timestamps, clauses) := Call.readStamps clauses
    let (values, clauses) := Call.readValues clauses
    let (count, clauses) := readCount clauses
    let grouping ← readGrouping? clauses
    some ⟨.text key, Bound.ofGiven start, Bound.ofGiven stop, latest, timestamps, values, count,
      grouping⟩
  | _ => none

/-- Clauses that are missing, or start with one of some words. -/
def Opens (words : List String) (clauses : List Value) : Prop :=
  ∀ first ∈ clauses.head?, ∃ word ∈ words, first = .text word

theorem opens_append {word : String} {words : List String} {clause rest : List Value}
    (clauses : clause = [] ∨ clause.head? = some (.text word)) (later : Opens words rest) :
    Opens (word :: words) (clause ++ rest) := by
  intro first found
  rcases clauses with rfl | opening
  · obtain ⟨other, member, rfl⟩ := later first found
    exact ⟨other, List.mem_cons_of_mem _ member, rfl⟩
  · rw [List.head?_append, opening] at found
    cases found
    exact ⟨word, List.mem_cons_self, rfl⟩

theorem Opens.ne_text {word : String} {words : List String} {clauses : List Value}
    (opens : Opens words clauses) (other : word ∉ words) : clauses.head? ≠ some (.text word) := by
  intro first
  obtain ⟨opening, member, same⟩ := opens _ first
  cases same
  exact other member

theorem Opens.ne_int {words : List String} {clauses : List Value} (opens : Opens words clauses)
    (n : Int) : clauses.head? ≠ some (.int n) := by
  intro first
  obtain ⟨opening, -, same⟩ := opens _ first
  cases same

variable {request : RangeRequest} {rest : List Value}

theorem readLatest_eq (latest : Bool) (other : rest.head? ≠ some (.text "LATEST")) :
    readLatest ((if latest then [.text "LATEST"] else []) ++ rest) = (latest, rest) := by
  cases latest with
  | true => rfl
  | false =>
    change readLatest rest = _
    unfold readLatest
    split
    · exact absurd rfl other
    · rfl

theorem readValues_eq (other : rest.head? ≠ some (.text "FILTER_BY_VALUE")) :
    Call.readValues (request.valueArguments ++ rest) = (request.values, rest) := by
  unfold RangeRequest.valueArguments
  cases request.values with
  | some => rfl
  | none =>
    change Call.readValues rest = _
    unfold Call.readValues
    split
    · exact absurd rfl other
    · rfl

theorem readCount_eq (counted : request.count = none ∨ ∃ n : Int, request.count = some (.int n))
    (other : rest.head? ≠ some (.text "COUNT")) :
    readCount (request.countArguments ++ rest) = (request.count, rest) := by
  unfold RangeRequest.countArguments
  rcases counted with unset | ⟨n, given⟩
  · rw [unset]
    change readCount rest = _
    unfold readCount
    split
    · exact absurd rfl other
    · rfl
  · rw [given]
    rfl

end RangeCall

/-- Open at one end, or at an instant. -/
inductive Bound.IsMark : Bound → Prop
  | oldest : IsMark .oldest
  | newest : IsMark .newest
  | instant (n : Int) : IsMark (.instant n)

/-- A request of which all that is sent beside the key are numbers and marks. -/
structure RangeRequest.IsWritten (request : RangeRequest) : Prop where
  keyed : ∃ key, request.key = .text key
  starts : request.start.IsMark
  stops : request.stop.IsMark
  aligned : (∃ n : Int, request.align = .int n) ∨
    ∃ mark ∈ RangeCall.alignMarks, request.align = .text mark
  valued : request.values = none ∨
    ∃ least greatest : Int, request.values = some (.int least, .int greatest)
  counted : request.count = none ∨ ∃ n : Int, request.count = some (.int n)

theorem isToken_text {word : String} (unread : Text.whole? word.toList = none) :
    IsToken (.text word) :=
  .inr ⟨word, rfl, unread⟩

theorem isToken_int (n : Int) : IsToken (.int n) :=
  .inl ⟨n, rfl⟩

theorem Bound.IsMark.read {bound : Bound} (isMark : bound.IsMark) :
    IsToken bound.value ∧ RangeCall.readMark? RangeCall.boundMarks bound.value = some bound.value ∧
      Bound.ofGiven bound.value = bound := by
  cases isMark with
  | oldest => exact ⟨isToken_text (by decide), rfl, rfl⟩
  | newest => exact ⟨isToken_text (by decide), rfl, rfl⟩
  | instant n => exact ⟨isToken_int n, rfl, rfl⟩

namespace RangeCall

variable {request : RangeRequest}

theorem readMark?_align (written : request.IsWritten) :
    IsToken request.align ∧ readMark? alignMarks request.align = some request.align := by
  rcases written.aligned with ⟨n, number⟩ | ⟨mark, member, marked⟩
  · rw [number]
    exact ⟨isToken_int n, rfl⟩
  · rw [marked]
    have each : ∀ mark ∈ alignMarks, Text.whole? mark.toList = none := by decide
    exact ⟨isToken_text (each mark member), if_pos member⟩

theorem isToken_statistic (statistic : Statistic) : IsToken (.text statistic.word) :=
  isToken_text (by cases statistic <;> decide)

/-- The last clauses stand for an aggregation over fixed buckets. -/
theorem exists_grouping (written : request.IsWritten) (plain : request.unit? = none) :
    ∃ clause, request.aggregationArguments = .ok clause ∧ (∀ value ∈ clause, IsToken value) ∧
      Opens ["ALIGN"] clause ∧ readGrouping? clause = some request.said.grouping := by
  unfold RangeRequest.unit? at plain
  unfold RangeRequest.aggregationArguments RangeRequest.said
  match request.aggregation, plain with
  | none, _ => exact ⟨[], rfl, by simp, by simp [Opens], rfl⟩
  | some ⟨statistic, .fixed duration⟩, _ =>
    obtain ⟨isToken, aligned⟩ := readMark?_align written
    refine ⟨_, rfl, ?_, ?_, ?_⟩
    · have empty : ∀ value ∈ (if request.includeEmpty then [Value.text "EMPTY"] else []),
          IsToken value := by
        cases request.includeEmpty
        · simp
        · exact List.forall_mem_singleton.2 (isToken_text (by decide))
      rw [List.forall_mem_append]
      refine ⟨?_, empty⟩
      simp only [List.forall_mem_cons]
      exact ⟨isToken_text (by decide), isToken, isToken_text (by decide),
        isToken_statistic statistic, isToken_int duration, by simp⟩
    · intro first found
      cases found
      exact ⟨"ALIGN", List.mem_cons_self, rfl⟩
    · change readGrouping? (.text "ALIGN" :: request.align :: .text "AGGREGATION" ::
        .text statistic.word :: .int duration ::
          if request.includeEmpty then [.text "EMPTY"] else []) = _
      rw [readGrouping?, aligned, Statistic.ofWord?_word]
      cases request.includeEmpty <;> rfl

/-- What a command says before the clauses of the buckets. -/
theorem isToken_clauses (written : request.IsWritten) :
    ∀ value ∈ (if request.latest then [Value.text "LATEST"] else []) ++
      request.timestampArguments ++ request.valueArguments ++ request.countArguments,
      IsToken value := by
  simp only [List.forall_mem_append]
  refine ⟨⟨⟨?_, ?_⟩, ?_⟩, ?_⟩
  · cases request.latest
    · simp
    · exact List.forall_mem_singleton.2 (isToken_text (by decide))
  · unfold RangeRequest.timestampArguments
    split
    · simp only [List.forall_mem_cons, List.forall_mem_map]
      exact ⟨isToken_text (by decide), isToken_int _, fun stamp _ => isToken_int stamp⟩
    · simp
  · unfold RangeRequest.valueArguments
    rcases written.valued with unset | ⟨least, greatest, given⟩
    · simp [unset]
    · simp only [given, List.forall_mem_cons]
      exact ⟨isToken_text (by decide), isToken_int least, isToken_int greatest, by simp⟩
  · unfold RangeRequest.countArguments
    rcases written.counted with unset | ⟨n, given⟩
    · simp [unset]
    · simp only [given, List.forall_mem_cons]
      exact ⟨isToken_text (by decide), isToken_int n, by simp⟩

theorem opens_count (request : RangeRequest) :
    request.countArguments = [] ∨ request.countArguments.head? = some (.text "COUNT") := by
  unfold RangeRequest.countArguments
  cases request.count <;> simp

theorem opens_values (request : RangeRequest) :
    request.valueArguments = [] ∨
      request.valueArguments.head? = some (.text "FILTER_BY_VALUE") := by
  unfold RangeRequest.valueArguments
  cases request.values <;> simp

theorem opens_stamps (request : RangeRequest) :
    request.timestampArguments = [] ∨
      request.timestampArguments.head? = some (.text "FILTER_BY_TS") := by
  unfold RangeRequest.timestampArguments
  split <;> simp

/-- A request over fixed buckets or none is read back from its words. -/
theorem read?_arguments (written : request.IsWritten) (listed : request.timestamps ≠ some [])
    (plain : request.unit? = none) :
    ∃ arguments, request.arguments = .ok arguments ∧
      read? (Wire.arguments arguments) = some request.said := by
  obtain ⟨clause, grouped, tokens, opens, grouping⟩ := exists_grouping written plain
  obtain ⟨key, keyed⟩ := written.keyed
  obtain ⟨startToken, startMark, start⟩ := written.starts.read
  obtain ⟨stopToken, stopMark, stop⟩ := written.stops.read
  obtain ⟨startSent, startRead⟩ := startToken.sent
  obtain ⟨stopSent, stopRead⟩ := stopToken.sent
  -- what may follow each of the clauses
  have afterCount := opens_append (opens_count request) opens
  have afterValues := opens_append (opens_values request) afterCount
  have afterStamps := opens_append (opens_stamps request) afterValues
  have clauses : ∀ value ∈ (if request.latest then [Value.text "LATEST"] else []) ++
      (request.timestampArguments ++
        (request.valueArguments ++ (request.countArguments ++ clause))), IsToken value := by
    intro value member
    simp only [← List.append_assoc] at member
    rcases List.mem_append.1 member with before | last
    · exact isToken_clauses written value before
    · exact tokens value last
  refine ⟨_, by rw [RangeRequest.arguments, grouped, Except.map], ?_⟩
  have sent : Wire.arguments ([request.key, request.start.value, request.stop.value] ++
      (if request.latest then [.text "LATEST"] else []) ++ request.timestampArguments ++
        request.valueArguments ++ request.countArguments ++ clause) =
      key :: Wire.word request.start.value :: Wire.word request.stop.value ::
        Wire.arguments ((if request.latest then [.text "LATEST"] else []) ++
          (request.timestampArguments ++ (request.valueArguments ++
            (request.countArguments ++ clause)))) := by
    simp only [List.append_assoc, List.cons_append, List.nil_append, Wire.arguments, startSent,
      stopSent, keyed]
    rfl
  rw [sent, read?, startRead, stopRead, startMark, stopMark, map_token_arguments clauses]
  simp only [Option.bind_eq_bind, Option.bind_some]
  rw [readLatest_eq _ (afterStamps.ne_text (by decide)),
    Call.readStamps_eq listed afterValues.ne_int (afterValues.ne_text (by decide)),
    readValues_eq (afterCount.ne_text (by decide)),
    readCount_eq written.counted (opens.ne_text (by decide)), grouping, start, stop, ← keyed]
  rfl

end RangeCall

end CalendarSeries
