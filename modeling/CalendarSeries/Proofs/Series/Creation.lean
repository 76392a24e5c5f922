import CalendarSeries.Proofs.Aggregation.Span
import CalendarSeries.Proofs.Sending
import CalendarSeries.Series.Commands
/-!
Creating a series, by the one command that it sends. A retention is the same number of milliseconds
as the duration of an aggregation over that span. Labels are followed by the words of their values,
of which there may be none or several.
-/
namespace CalendarSeries

namespace Series

variable {key : String} {creation : Creation} {error : Error} {arguments others : List Value}

/-- The options of a creation that have to be read. -/
theorem creationArguments_eq (key : String) (creation : Creation) :
    creationArguments key creation =
      (retentionArguments creation.retention).bind fun retention =>
        (policyArguments DuplicatePolicy.creationOption creation.policy).bind fun policy =>
          (labelArguments creation.labels).bind fun labels =>
            .ok (.text key :: retention ++ uncompressedArguments creation.uncompressed ++
              option "CHUNK_SIZE" creation.chunkSize ++ policy ++ labels) :=
  rfl

theorem creationArguments_ok_iff :
    creationArguments key creation = .ok arguments ↔
      ∃ retention policy labels, retentionArguments creation.retention = .ok retention ∧
        policyArguments DuplicatePolicy.creationOption creation.policy = .ok policy ∧
        labelArguments creation.labels = .ok labels ∧
        arguments = .text key :: retention ++ uncompressedArguments creation.uncompressed ++
          option "CHUNK_SIZE" creation.chunkSize ++ policy ++ labels := by
  rw [creationArguments_eq]
  constructor
  · intro accepted
    obtain ⟨retention, lasting, accepted⟩ := bind_succeeded accepted
    obtain ⟨policy, named, accepted⟩ := bind_succeeded accepted
    obtain ⟨labels, mapped, accepted⟩ := bind_succeeded accepted
    cases accepted
    exact ⟨retention, policy, labels, lasting, named, mapped, rfl⟩
  · rintro ⟨retention, policy, labels, lasting, named, mapped, rfl⟩
    rw [lasting, named, mapped]
    rfl

variable (series : Series) (link : Link)

/-- A creation that is refused sends nothing. -/
theorem perform_create_of_refused
    (refused : creationArguments series.key creation = .error error) :
    Link.perform (series.create creation) link = (.error error, link) := by
  rw [create, Link.perform_bind, Link.perform_ofExcept, refused]

/-- A creation that is not refused sends one command. -/
theorem events_create (accepted : creationArguments series.key creation = .ok arguments) :
    (Link.perform (series.create creation) link).2.events =
      link.events ++ [.command ("TS.CREATE" :: Wire.arguments arguments)] := by
  obtain ⟨after, called, sent⟩ :=
    link.perform_call series.context "TS.CREATE" arguments
  rw [create, Link.perform_bind, Link.perform_ofExcept, accepted]
  simp only [call]
  rw [Link.perform_bind, called]
  cases link.replied with
  | error => exact sent
  | ok => exact sent

/-- With a span as retention, the command says how many milliseconds that is. -/
theorem events_create_retained (creation : Creation) (span : Micros)
    (accepted : creationArguments series.key { creation with retention := .none } =
      .ok (.text series.key :: others)) :
    (Link.perform (series.create { creation with retention := .span span }) link).2.events =
      link.events ++ [.command ("TS.CREATE" :: series.key :: "RETENTION" ::
        Value.intText (Aggregation.millisecondsOfSpan span) :: Wire.arguments others)] := by
  have retained : creationArguments series.key { creation with retention := .span span } =
      .ok (.text series.key :: .text "RETENTION" ::
        .int (Aggregation.millisecondsOfSpan span) :: others) := by
    obtain ⟨none, policy, labels, absent, named, mapped, same⟩ :=
      creationArguments_ok_iff.1 accepted
    cases absent
    cases same
    exact creationArguments_ok_iff.2 ⟨_, policy, labels, rfl, named, mapped, rfl⟩
  exact events_create series link retained

section span

open Aggregation

theorem make_span {type : Value} {statistic : Statistic} {span : Micros}
    (named : statisticOf type = .ok statistic) (positive : 0 < millisecondsOfSpan span) :
    make type (.span span) = .ok ⟨statistic, .fixed (millisecondsOfSpan span)⟩ := by
  rw [make, named]
  change (Aggregation.positive _).bind _ = _
  rw [Aggregation.positive, if_pos positive]
  rfl

variable {n : Nat} {span : Micros}

theorem span_of_milliseconds (held : Instant.spanOfMilliseconds n = .ok span) :
    span = n * 1000 ∧ n ≤ longest := by
  unfold Instant.spanOfMilliseconds at held
  simp only at held
  split_ifs at held with wide far
  cases held
  refine ⟨rfl, ?_⟩
  have day : Micros.perDay = 86400000000 := rfl
  rw [day] at far
  unfold longest
  omega

/-- A span of whole milliseconds is the same number of them as the duration of an aggregation, for
every statistic, and as the retention of a series, whatever its other options. This number is the
span's own just if it keeps its digits on the way through seconds. Else it is one less for spans of
less than `2 ^ 52` milliseconds, and never off by more than fifteen. -/
theorem milliseconds_of_span (positive : 1 ≤ n)
    (held : Instant.spanOfMilliseconds n = .ok span) :
    ∃ milliseconds : Int,
      (∀ type statistic, statisticOf type = .ok statistic →
        make type (.span span) = .ok ⟨statistic, .fixed milliseconds⟩) ∧
      (∀ (series : Series) (creation : Creation) (link : Link) (others : List Value),
        creationArguments series.key { creation with retention := .none } =
          .ok (.text series.key :: others) →
        (Link.perform (create series { creation with retention := .span span }) link).2.events =
          link.events ++ [.command ("TS.CREATE" :: series.key :: "RETENTION" ::
            Value.intText milliseconds :: Wire.arguments others)]) ∧
      (milliseconds = n ↔ Keeps n) ∧
      (n < 2 ^ 52 → milliseconds = n ∨ milliseconds = n - 1) ∧
      milliseconds ≤ n + 15 ∧ n ≤ milliseconds + 15 := by
  obtain ⟨rfl, short⟩ := span_of_milliseconds held
  obtain ⟨exact, least, -⟩ := places_bounds positive short
  obtain ⟨digits, seconds, product, counted⟩ := exists_isCounted positive short
  have close := counted.close exact
  have kept := counted.eq_iff positive short
  have below : n < 2 ^ 52 → _ := fun few => counted.of_short (places_of_short least few)
  have some_left : 0 < millisecondsOfSpan (n * 1000) := by
    rcases Nat.lt_or_ge 1 n with more | one
    · rcases Nat.lt_or_ge n (2 ^ 52) with few | many
      · have := below few
        omega
      · omega
    · obtain rfl : n = 1 := by omega
      rw [kept.2 (by decide)]
      decide
  refine ⟨_, ?_, ?_, kept, below, close⟩
  · intro type statistic named
    exact make_span named some_left
  · intro series creation link others accepted
    exact events_create_retained series link creation _ accepted

/-- The last of 1001 milliseconds is lost, as a thousand times their seconds stays below 1001. -/
theorem milliseconds_of_span_lost :
    1 ≤ 1001 ∧ Instant.spanOfMilliseconds (1001 : Nat) = .ok 1001000 ∧
    ∃ milliseconds : Int,
      make (.text "AVG") (.span 1001000) = .ok ⟨.average, .fixed milliseconds⟩ ∧
      (Link.perform (create ⟨"k", {}⟩ { retention := .span 1001000 }) { answers := [] }).2.events =
        [.command ["TS.CREATE", "k", "RETENTION", Value.intText milliseconds]] ∧
      milliseconds = 1000 := by
  refine ⟨by decide, rfl, ?_⟩
  obtain ⟨milliseconds, duration, retention, kept, below, -⟩ :=
    milliseconds_of_span (show 1 ≤ 1001 by decide)
      (show Instant.spanOfMilliseconds (1001 : Nat) = .ok 1001000 from rfl)
  have lost : ¬milliseconds = (1001 : Nat) := fun same => absurd (kept.1 same) (by decide)
  have less : milliseconds = 1001 - 1 := (below (by decide)).resolve_left lost
  exact ⟨milliseconds, duration _ _ rfl, retention ⟨"k", {}⟩ {} { answers := [] } [] rfl, less⟩

/-- So a duration is not always the milliseconds that its span was made of. -/
theorem duration_not_kept :
    ¬∀ (n : Nat) (span : Micros), 1 ≤ n → Instant.spanOfMilliseconds n = .ok span →
      make (.text "avg") (.span span) = .ok ⟨.average, .fixed n⟩ := by
  intro kept
  have counted : millisecondsOfSpan 1001000 = 1000 := by decide +kernel
  have made : make (.text "avg") (.span 1001000) = .ok ⟨.average, .fixed 1000⟩ := by
    rw [make_span rfl (by rw [counted]; decide), counted]
  cases made.symm.trans (kept 1001 1001000 (by decide) rfl)

end span

section labels

/-- The words for labels: each is followed by the words of its value. -/
def labelWords : List (String × Value) → List String
  | [] => []
  | (label, value) :: labels => label :: (Wire.argument value ++ labelWords labels)

/-- Words that are, two by two, the labels and the one word of the value of each. -/
inductive Paired : List (String × Value) → List String → Prop where
  | nil : Paired [] []
  | cons {label text : String} {value : Value} {labels : List (String × Value)}
      {words : List String} (single : Wire.argument value = [text]) (rest : Paired labels words) :
      Paired ((label, value) :: labels) (label :: text :: words)

variable {labels : List (String × Value)}

/-- Labels arrive with their values just if every value is sent as one word. -/
theorem paired_labelWords_iff :
    Paired labels (labelWords labels) ↔
      ∀ entry ∈ labels, ∃ text, Wire.argument entry.2 = [text] := by
  constructor
  · generalize labelWords labels = words
    intro paired
    induction paired with
    | nil => simp
    | cons single _ ih => exact List.forall_mem_cons.2 ⟨⟨_, single⟩, ih⟩
  · intro single
    induction labels with
    | nil => exact .nil
    | cons entry labels ih =>
      obtain ⟨⟨text, only⟩, rest⟩ := List.forall_mem_cons.1 single
      rw [labelWords, only]
      exact .cons only (ih rest)

/-- Values that are not opened arrive in their own words. -/
theorem labelWords_of_isWorded (worded : ∀ entry ∈ labels, Wire.IsWorded entry.2) :
    labelWords labels = labels.flatMap fun (label, value) => [label, Wire.word value] := by
  induction labels with
  | nil => rfl
  | cons entry labels ih =>
    obtain ⟨first, rest⟩ := List.forall_mem_cons.1 worded
    rw [labelWords, Wire.argument_of_isWorded first, ih rest]
    rfl

/-- Labels as the argument of a creation. -/
def labelMap (labels : List (String × Value)) : Value :=
  .map (labels.map fun (label, value) => (.text label, value))

theorem labelArguments_labelMap (labels : List (String × Value)) :
    ∃ arguments, labelArguments (labelMap labels) = .ok arguments ∧
      Wire.arguments arguments = if labels = [] then [] else "LABELS" :: labelWords labels := by
  refine ⟨_, rfl, ?_⟩
  have words : Wire.arguments ((labels.map fun entry => (Value.text entry.1, entry.2)).flatMap
      fun entry => [entry.1, entry.2]) = labelWords labels := by
    induction labels with
    | nil => rfl
    | cons entry labels ih =>
      rw [List.map_cons, List.flatMap_cons, Wire.arguments_append, ih]
      simp [Wire.arguments, Wire.argument, Wire.word, Value.render, labelWords]
  cases labels with
  | nil => rfl
  | cons entry labels =>
    rw [if_neg (List.cons_ne_nil entry labels), ← words]
    rfl

/-- A creation with labels is refused if its other options are, whatever the labels. Otherwise one
command is sent, at whose end the labels stand, each before the words of its value. These are the
labels and their values two by two just if every value is one word; so they are where no value is
nothing at all, a list or a tuple. -/
theorem create_labelled (series : Series) (creation : Creation) (link : Link)
    (labels : List (String × Value)) :
    (∀ error, creationArguments series.key { creation with labels := .none } = .error error →
      Link.perform (series.create { creation with labels := labelMap labels }) link =
        (.error error, link)) ∧
    (∀ others, creationArguments series.key { creation with labels := .none } = .ok others →
      (Link.perform (series.create { creation with labels := labelMap labels }) link).2.events =
        link.events ++ [.command ("TS.CREATE" :: (Wire.arguments others ++
          if labels = [] then [] else "LABELS" :: labelWords labels))]) ∧
    (Paired labels (labelWords labels) ↔
      ∀ entry ∈ labels, ∃ text, Wire.argument entry.2 = [text]) ∧
    ((∀ entry ∈ labels, Wire.IsWorded entry.2) →
      labelWords labels = labels.flatMap fun (label, value) => [label, Wire.word value]) := by
  obtain ⟨listed, mapped, words⟩ := labelArguments_labelMap labels
  refine ⟨?_, ?_, paired_labelWords_iff, labelWords_of_isWorded⟩
  · intro error refused
    refine perform_create_of_refused series link ?_
    rw [creationArguments_eq] at refused ⊢
    dsimp only at refused ⊢
    rcases bind_failed refused with failed | ⟨retention, read, refused⟩
    · rw [failed]
      rfl
    rcases bind_failed refused with failed | ⟨policy, named, refused⟩
    · rw [read, failed]
      rfl
    · cases refused
  · intro others accepted
    have labelled : creationArguments series.key { creation with labels := labelMap labels } =
        .ok (others ++ listed) := by
      obtain ⟨retention, policy, none, lasting, named, absent, rfl⟩ :=
        creationArguments_ok_iff.1 accepted
      cases absent
      refine creationArguments_ok_iff.2
        ⟨retention, policy, listed, lasting, named, mapped, ?_⟩
      rw [List.append_nil]
    rw [events_create series link labelled, Wire.arguments_append, words]

/-- A text and a number follow their labels. -/
theorem create_labelled_kitchen :
    (Link.perform (create ⟨"k", {}⟩
        { labels := labelMap [("room", .text "kitchen"), ("floor", .int 1)] })
      { answers := [] }).2.events =
        [.command ["TS.CREATE", "k", "LABELS", "room", "kitchen", "floor", "1"]] ∧
    Paired [("room", .text "kitchen"), ("floor", .int 1)] ["room", "kitchen", "floor", "1"] := by
  obtain ⟨-, sent, paired, -⟩ := create_labelled ⟨"k", {}⟩ {} { answers := [] }
    [("room", .text "kitchen"), ("floor", .int 1)]
  refine ⟨sent [.text "k"] rfl, paired.2 ?_⟩
  simp [Wire.argument]

/-- Labels without values are sent as if each second one were the value of the one before. -/
theorem create_labelled_astray :
    (Link.perform (create ⟨"k", {}⟩ { labels := labelMap [("a", .none), ("b", .none)] })
      { answers := [] }).2.events = [.command ["TS.CREATE", "k", "LABELS", "a", "b"]] ∧
    ¬Paired [("a", .none), ("b", .none)] ["a", "b"] := by
  refine ⟨rfl, ?_⟩
  intro paired
  cases paired with
  | cons _ rest => cases rest

end labels

end Series

end CalendarSeries
