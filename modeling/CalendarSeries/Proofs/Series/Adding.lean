import CalendarSeries.Proofs.Outcome
import CalendarSeries.Proofs.Value.Sent
import CalendarSeries.Series.Commands
/-!
Adding to a series. The command goes out before the numbers are taken from the values, so it is sent
also where no sample can be given for a value. Against a server that accepts everything, samples of
the numbers that were sent are given for numbers and for texts of numbers, and for no other value.
-/
namespace CalendarSeries.Series

open Link

variable {stamp given value : Value} {now n : Int} {batch : Batch} {pairs : List (Value × Value)}

theorem isWorded_of_timestamp (read : timestamp given = .ok stamp) : Wire.IsWorded stamp := by
  unfold timestamp at read
  split at read
  · cases read
    trivial
  · cases read
    trivial
  · obtain ⟨milliseconds, -, rfl⟩ := map_succeeded read
    trivial

/-- The timestamps of a batch are sent as one word each. -/
theorem isWorded_of_read (read : batch.read now = .ok pairs) :
    ∀ pair ∈ pairs, Wire.IsWorded pair.1 := by
  intro pair member
  cases batch with
  | single value =>
    cases read
    rw [List.mem_singleton.1 member]
    trivial
  | pairs given =>
    obtain ⟨item, -, found⟩ := exists_of_mem_mapM read member
    obtain ⟨two, -, found⟩ := bind_succeeded found
    obtain ⟨stamp, marked, found⟩ := bind_succeeded found
    cases found
    exact isWorded_of_timestamp marked
  | values values =>
    cases read
    obtain ⟨item, -, rfl⟩ := List.mem_map.1 member
    trivial
  | other => cases read

theorem addedSample_int (n : Int) (value : Value) :
    addedSample (.int n) value = value.toDecimal.map fun x => .sample n (.decimal x) := by
  change (value.toDecimal.bind fun x => .ok _) = _
  cases value.toDecimal <;> rfl

theorem batchElement_int (n : Int) (value : Value) :
    batchElement (.int n) value = value.toDecimal.map fun x => .sample n (.decimal x) :=
  addedSample_int n value

variable (series : Series) (link : Link)

/-- One sample is refused before anything is sent, or its value goes out in one command. -/
theorem perform_add (value stamp policy : Value) (uncompressed : Bool) :
    (∃ error, perform (series.add value stamp uncompressed policy) link = (.error error, link)) ∨
    ∃ marked options after,
      perform (series.add value stamp uncompressed policy) link =
        (link.replied.bind (addedSample · value), after) ∧
      after.events = link.events ++ [.command
        ("TS.ADD" :: series.key :: marked :: (Wire.argument value ++ options))] := by
  unfold add
  rw [perform_bind, perform_ofExcept]
  cases read : timestamp stamp with
  | error error => exact .inl ⟨error, rfl⟩
  | ok mark =>
    dsimp only
    rw [perform_bind, perform_ofExcept]
    cases policyArguments DuplicatePolicy.additionOption policy with
    | error error => exact .inl ⟨error, rfl⟩
    | ok options =>
      right
      obtain ⟨after, called, sent⟩ := perform_call link series.context "TS.ADD"
        ([.text series.key, mark, value] ++ uncompressedArguments uncompressed ++ options)
      refine ⟨Wire.word mark, Wire.arguments (uncompressedArguments uncompressed ++ options), after,
        ?_, ?_⟩
      · dsimp only
        rw [perform_bind, call, called]
        cases link.replied with
        | error => rfl
        | ok reply => exact perform_ofExcept after _
      · rw [sent, List.append_assoc, Wire.arguments_append]
        simp [Wire.arguments, Wire.argument_of_isWorded (isWorded_of_timestamp read),
          Wire.argument, Wire.word, Value.render]

/-- The words for the samples of a batch: the key, a timestamp and the words of a value for each. -/
def batchWords (key : String) : List (Value × Value) → List String
  | [] => []
  | (stamp, value) :: pairs =>
    key :: Wire.word stamp :: (Wire.argument value ++ batchWords key pairs)

theorem arguments_batch (key : String) (worded : ∀ pair ∈ pairs, Wire.IsWorded pair.1) :
    Wire.arguments (pairs.flatMap fun (stamp, value) => [.text key, stamp, value]) =
      batchWords key pairs := by
  induction pairs with
  | nil => rfl
  | cons pair pairs ih =>
    obtain ⟨first, rest⟩ := List.forall_mem_cons.1 worded
    rw [List.flatMap_cons, Wire.arguments_append, ih rest]
    simp [Wire.arguments, Wire.argument_of_isWorded first, Wire.argument, Wire.word, Value.render,
      batchWords]

theorem length_batchWords (key : String)
    (single : ∀ pair ∈ pairs, ∃ text, Wire.argument pair.2 = [text]) :
    (batchWords key pairs).length = 3 * pairs.length := by
  induction pairs with
  | nil => rfl
  | cons pair pairs ih =>
    obtain ⟨⟨text, only⟩, rest⟩ := List.forall_mem_cons.1 single
    rw [batchWords, only]
    simp [ih rest]
    omega

/-- A batch is refused before anything is sent, or its values go out in one command. The samples
follow the replies. -/
theorem perform_addBatch (batch : Batch) (now : Int) :
    (∃ error, batch.read now = .error error ∧
      perform (series.addBatch now batch) link = (.error error, link)) ∨
    ∃ pairs after, batch.read now = .ok pairs ∧
      perform (series.addBatch now batch) link =
        (link.replied.bind fun replies => do
          ((← replies.iterate).zip pairs).mapM fun (reply, _, value) => batchElement reply value,
          after) ∧
      after.events =
        link.events ++ [.command ("TS.MADD" :: batchWords series.key pairs)] := by
  unfold addBatch
  rw [perform_bind, perform_ofExcept]
  cases read : batch.read now with
  | error error => exact .inl ⟨error, rfl, rfl⟩
  | ok pairs =>
    right
    obtain ⟨after, called, sent⟩ := perform_call link series.context "TS.MADD"
      (pairs.flatMap fun (stamp, value) => [.text series.key, stamp, value])
    refine ⟨pairs, after, rfl, ?_, ?_⟩
    · dsimp only
      rw [perform_bind, call, called]
      cases link.replied with
      | error => rfl
      | ok reply => exact perform_ofExcept after _
    · rw [sent, arguments_batch series.key (isWorded_of_read read)]

/-- A sample of the number that the one text of a value denotes. -/
def IsSampleOf (value : Value) (sample : Element) : Prop :=
  ∃ n x, sample = .sample n (.decimal x) ∧ value.Denotes x

theorem isSampleOf_iff (held : value.IsHeld) (n : Int) :
    (∃ sample, value.toDecimal.map (fun x => Element.sample n (.decimal x)) = .ok sample ∧
      IsSampleOf value sample) ↔ value.IsNumeric := by
  rw [← Value.exists_denotes_iff held]
  constructor
  · rintro ⟨sample, given, m, x, same, denotes⟩
    obtain ⟨y, taken, rfl⟩ := map_succeeded given
    cases same
    exact ⟨x, taken, denotes⟩
  · rintro ⟨x, taken, denotes⟩
    exact ⟨_, by rw [taken]; rfl, n, x, rfl, denotes⟩

/-- The samples of a batch by the timestamps of a reply. -/
def batchSamples (stamps : List Int) (pairs : List (Value × Value)) : Except Error (List Element) :=
  ((stamps.map Value.int).zip pairs).mapM fun (reply, _, value) => batchElement reply value

theorem batchSamples_cons (n : Int) (stamps : List Int) (pair : Value × Value) :
    batchSamples (n :: stamps) (pair :: pairs) = (do
      let sample ← pair.2.toDecimal.map fun x => .sample n (.decimal x)
      let samples ← batchSamples stamps pairs
      .ok (sample :: samples)) := by
  rw [batchSamples, List.map_cons, List.zip_cons_cons, List.mapM_cons]
  dsimp only
  rw [batchElement_int]
  rfl

/-- If every value has its sample, every value is a number. -/
theorem isNumeric_of_batchSamples {stamps : List Int} {samples : List Element}
    (held : ∀ pair ∈ pairs, pair.2.IsHeld) (given : batchSamples stamps pairs = .ok samples)
    (each : List.Forall₂ (fun pair sample => IsSampleOf pair.2 sample) pairs samples) :
    ∀ pair ∈ pairs, pair.2.IsNumeric := by
  induction each generalizing stamps with
  | nil => simp
  | cons first rest ih =>
    cases stamps with
    | nil => cases given
    | cons n stamps =>
      rw [batchSamples_cons] at given
      obtain ⟨sample, taken, given⟩ := bind_succeeded given
      obtain ⟨samples, later, given⟩ := bind_succeeded given
      cases given
      obtain ⟨here, others⟩ := List.forall_mem_cons.1 held
      exact List.forall_mem_cons.2
        ⟨(isSampleOf_iff here n).1 ⟨_, taken, first⟩, ih others later⟩

theorem exists_batchSamples {stamps : List Int} (held : ∀ pair ∈ pairs, pair.2.IsHeld)
    (size : stamps.length = pairs.length) (numeric : ∀ pair ∈ pairs, pair.2.IsNumeric) :
    ∃ samples, batchSamples stamps pairs = .ok samples ∧
      List.Forall₂ (fun pair sample => IsSampleOf pair.2 sample) pairs samples := by
  induction pairs generalizing stamps with
  | nil =>
    rw [List.eq_nil_of_length_eq_zero size]
    exact ⟨[], rfl, .nil⟩
  | cons pair pairs ih =>
    obtain ⟨n, stamps, rfl⟩ := List.exists_cons_of_length_eq_add_one size
    obtain ⟨here, others⟩ := List.forall_mem_cons.1 held
    obtain ⟨first, rest⟩ := List.forall_mem_cons.1 numeric
    obtain ⟨sample, taken, shown⟩ := (isSampleOf_iff here n).2 first
    obtain ⟨samples, later, each⟩ := ih others (Nat.succ.inj size) rest
    refine ⟨sample :: samples, ?_, .cons shown each⟩
    rw [batchSamples_cons, taken, later]
    rfl

/-- What is added to a series either is refused with nothing sent, or goes out in one command with
the words of all values. If this is accepted, with a timestamp for a single sample and with one for
each three words of a batch, then samples are given, of the numbers that the one text of each value
denotes, just if all values are numbers or texts of numbers. -/
theorem adds_samples_iff (series : Series) (link : Link) :
    (∀ value stamp policy uncompressed n, value.IsHeld → link.replied = .ok (.int n) →
      (∃ error, perform (series.add value stamp uncompressed policy) link = (.error error, link)) ∨
      ∃ marked options,
        (perform (series.add value stamp uncompressed policy) link).2.events =
          link.events ++ [.command
            ("TS.ADD" :: series.key :: marked :: (Wire.argument value ++ options))] ∧
        ((∃ sample, (perform (series.add value stamp uncompressed policy) link).1 = .ok sample ∧
          IsSampleOf value sample) ↔ value.IsNumeric)) ∧
    ∀ batch now,
      (∃ error, batch.read now = .error error ∧
        perform (series.addBatch now batch) link = (.error error, link)) ∨
      ∃ pairs, batch.read now = .ok pairs ∧
        (perform (series.addBatch now batch) link).2.events =
          link.events ++ [.command ("TS.MADD" :: batchWords series.key pairs)] ∧
        ∀ stamps : List Int, (∀ pair ∈ pairs, pair.2.IsHeld) →
          link.replied = .ok (.list (stamps.map .int)) →
          stamps.length = (batchWords series.key pairs).length / 3 →
          ((∃ samples, (perform (series.addBatch now batch) link).1 = .ok samples ∧
            List.Forall₂ (fun pair sample => IsSampleOf pair.2 sample) pairs samples) ↔
              ∀ pair ∈ pairs, pair.2.IsNumeric) := by
  constructor
  · intro value stamp policy uncompressed n held replied
    rcases perform_add series link value stamp policy uncompressed with
      refused | ⟨marked, options, after, added, sent⟩
    · exact .inl refused
    · refine .inr ⟨marked, options, by rw [added, sent], ?_⟩
      have sample : link.replied.bind (addedSample · value) =
          value.toDecimal.map fun x => .sample n (.decimal x) := by
        rw [replied]
        exact addedSample_int n value
      rw [added, sample]
      exact isSampleOf_iff held n
  · intro batch now
    rcases perform_addBatch series link batch now with
      refused | ⟨pairs, after, read, added, sent⟩
    · exact .inl refused
    · refine .inr ⟨pairs, read, by rw [added, sent], fun stamps held replied size => ?_⟩
      have samples : (perform (series.addBatch now batch) link).1 = batchSamples stamps pairs := by
        rw [added, replied]
        rfl
      rw [samples]
      constructor
      · rintro ⟨samples, given, each⟩
        exact isNumeric_of_batchSamples held given each
      · intro numeric
        refine exists_batchSamples held ?_ numeric
        have words : (batchWords series.key pairs).length = 3 * pairs.length :=
          length_batchWords series.key fun pair member => by
            obtain ⟨-, -, text, -, only, -⟩ :=
              (Value.exists_denotes_iff (held pair member)).2 (numeric pair member)
            exact ⟨text, only⟩
        rw [size, words]
        omega

/-- A whole number and a text are both added with the numbers that they are. -/
theorem adds_samples_three :
    (∃ sample, (perform (add ⟨"k", {}⟩ (.int 3) (.int 5) false .none)
      { answers := [.reply (.int 5)] }).1 = .ok sample ∧ IsSampleOf (.int 3) sample) ∧
    ∃ samples, (perform (addBatch ⟨"k", {}⟩ 7 (.values [.int 3, .text "2.50"]))
        { answers := [.reply (.list [.int 7, .int 8])] }).1 = .ok samples ∧
      List.Forall₂ IsSampleOf [.int 3, .text "2.50"] samples := by
  constructor
  · have held : Value.IsHeld (.int 3) := show Decimal.holdsExactly 3 0 = true by decide
    rcases (adds_samples_iff ⟨"k", {}⟩ { answers := [.reply (.int 5)] }).1 (.int 3) (.int 5) .none
      false 5 held rfl with ⟨error, refused⟩ | ⟨marked, options, -, given⟩
    · cases congrArg Prod.fst refused
    · exact given.2 trivial
  · rcases (adds_samples_iff ⟨"k", {}⟩ { answers := [.reply (.list [.int 7, .int 8])] }).2
      (.values [.int 3, .text "2.50"]) 7 with ⟨error, refused, -⟩ | ⟨pairs, read, -, given⟩
    · cases refused
    · cases read
      obtain ⟨samples, added, each⟩ := (given [7, 8] (by simp [Value.IsHeld]; decide) rfl rfl).2
        (by simp [Value.IsNumeric]; decide)
      exact ⟨samples, added, List.forall₂_map_left_iff.2 each⟩

/-- A list of one number is written like the number, and refused only then. -/
theorem add_listed :
    ∃ after, perform (add ⟨"k", {}⟩ (.list [.int 3]) (.int 5) false .none)
        { answers := [.reply (.int 5)] } = (.error (.notNumeric (.list [.int 3])), after) ∧
      after.events = [.command ["TS.ADD", "k", "5", "3"]] :=
  ⟨_, rfl, rfl⟩

end CalendarSeries.Series
